import ReadoutControl.Regex.Meaning
import ReadoutControl.Proofs.Regex.Matching
import ReadoutControl.Proofs.Regex.Reading

set_option autoImplicit false

/-!
The bounds of every repetition that is read are in order, so what an expression stands for is an
expression whose matches the matcher finds.
-/

namespace ReadoutControl.Regex

namespace Ast

/-- Every repetition in the expression has bounds that are in order. -/
def Ordered : Ast → Prop
  | .repeated item least most _ => item.Ordered ∧ ∀ n, most = some n → least ≤ n
  | .group _ item _ => item.Ordered
  | .alternation branches => all branches
  | .concat items => all items
  | _ => True
where
  all : List Ast → Prop
    | [] => True
    | ast :: rest => ast.Ordered ∧ all rest

theorem ordered_all_iff {items : List Ast} : Ordered.all items ↔ ∀ ast ∈ items, ast.Ordered := by
  induction items with
  | nil => simp [Ordered.all]
  | cons ast rest ih => simp [Ordered.all, ih]

theorem ordered_ofItems {items : List Ast} (ordered : ∀ ast ∈ items, ast.Ordered) :
    (ofItems items).Ordered := by
  unfold ofItems
  split
  · trivial
  · exact ordered _ (List.mem_singleton_self _)
  · exact ordered_all_iff.mpr ordered

theorem ordered_ofBranches {branches : List Ast} (ordered : ∀ ast ∈ branches, ast.Ordered) :
    (ofBranches branches).Ordered := by
  unfold ofBranches
  split
  · exact ordered _ (List.mem_singleton_self _)
  · exact ordered_all_iff.mpr ordered

/-- Everything that has been read has bounds that are in order. -/
structure Progress.Ordered (p : Progress) : Prop where
  items : ∀ ast ∈ p.items, ast.Ordered
  branches : ∀ ast ∈ p.branches, ast.Ordered
  groups : ∀ g ∈ p.groups, (∀ ast ∈ g.items, ast.Ordered) ∧ ∀ ast ∈ g.branches, ast.Ordered

/-- What one step can do. -/
inductive Transition (p : Progress) : Progress → Prop
  | added {item : Ast} {free : Bool} (ordered : item.Ordered) :
      Transition p { p.add item with free }
  | opened {change : FlagChange} {remembers : Bool} {names : List (List Char)} :
      Transition p { p.openGroup change remembers with names }
  | closed {q : Progress} (closes : p.closeGroup? = some q) : Transition p q
  | branched : Transition p { p with items := [], branches := p.branch :: p.branches }
  | repeated {item : Ast} {rest : List Ast} {least : Nat} {most : Option Nat} {few : Bool}
      (last : p.items = item :: rest) (bounds : ∀ n, most = some n → least ≤ n) :
      Transition p { p with items := .repeated item least most few :: rest }

variable {p q : Progress} {cs after : List Char}

theorem named_transition (found : named p cs = some (q, after)) : Transition p q := by
  obtain ⟨⟨name, rest⟩, _, found⟩ := Option.bind_eq_some_iff.mp found
  obtain ⟨_, opened, same⟩ := Option.map_eq_some_iff.mp found
  obtain ⟨rfl, _⟩ := Prod.mk.inj same
  obtain ⟨_, same⟩ := Option.ite_none_left_eq_some.mp opened
  obtain rfl := Option.some.inj same
  exact .opened

theorem flagged_transition (found : flagged p cs = some (q, after)) : Transition p q := by
  obtain ⟨⟨change, rest⟩, _, found⟩ := Option.bind_eq_some_iff.mp found
  cases rest with
  | nil => exact nomatch found
  | cons c rest =>
    rw [afterFlags] at found
    split at found
    · obtain ⟨_, same⟩ := Option.ite_none_left_eq_some.mp found
      obtain ⟨rfl, _⟩ := Prod.mk.inj (Option.some.inj same)
      exact .added trivial
    · obtain ⟨_, same⟩ := Option.ite_none_right_eq_some.mp found
      obtain ⟨rfl, _⟩ := Prod.mk.inj (Option.some.inj same)
      exact .opened

theorem openParen?_transition (found : openParen? p cs = some (q, after)) : Transition p q := by
  rw [openParen?_eq] at found
  unfold afterParen at found
  split at found
  · unfold question at found
    split at found
    · exact nomatch found
    · exact named_transition (Option.ite_none_left_eq_some.mp found).2
    · exact named_transition found
    · exact flagged_transition found
  · obtain ⟨rfl, _⟩ := Prod.mk.inj (Option.some.inj found)
    exact .opened

theorem repeatLast?_transition {least : Nat} {most : Option Nat}
    (bounds : ∀ n, most = some n → least ≤ n)
    (found : p.repeatLast? least most cs = some (q, after)) : Transition p q := by
  unfold Progress.repeatLast? at found
  split at found
  · exact nomatch found
  · next item rest last =>
    obtain ⟨_, same⟩ := Option.ite_none_right_eq_some.mp found
    obtain ⟨rfl, _⟩ := Prod.mk.inj (Option.some.inj same)
    exact .repeated last bounds

theorem ordered_ofPrimitive (item : Primitive) : (ofPrimitive item).Ordered := by
  cases item <;> trivial

theorem step?_transition (found : step? p cs = some (q, after)) : Transition p q := by
  have unbounded (least n : Nat) (same : none = some n) : least ≤ n := nomatch same
  cases cs with
  | nil => exact nomatch found
  | cons c rest =>
    by_cases special : c ∈ ['(', ')', '|', '[', '?', '*', '+', '\x7b']
    · simp only [List.mem_cons, List.not_mem_nil, or_false] at special
      rcases special with rfl | rfl | rfl | rfl | rfl | rfl | rfl | rfl
      · exact openParen?_transition found
      · obtain ⟨_, closes, same⟩ := Option.map_eq_some_iff.mp found
        obtain ⟨rfl, _⟩ := Prod.mk.inj same
        exact .closed closes
      · obtain ⟨rfl, _⟩ := Prod.mk.inj (Option.some.inj found)
        exact .branched
      · obtain ⟨_, _, same⟩ := Option.map_eq_some_iff.mp found
        obtain ⟨rfl, _⟩ := Prod.mk.inj same
        exact .added trivial
      · exact repeatLast?_transition (fun _ _ => Nat.zero_le _) found
      · exact repeatLast?_transition (unbounded _) found
      · exact repeatLast?_transition (unbounded _) found
      · obtain ⟨⟨⟨least, most⟩, rest⟩, counted, found⟩ := Option.bind_eq_some_iff.mp found
        exact repeatLast?_transition (bounds?_ordered counted) found
    · rw [step?_primitive special] at found
      obtain ⟨_, _, same⟩ := Option.map_eq_some_iff.mp found
      obtain ⟨rfl, _⟩ := Prod.mk.inj same
      exact .added (ordered_ofPrimitive _)

namespace Progress.Ordered

theorem branch (ordered : p.Ordered) : p.branch.Ordered :=
  ordered_ofItems fun ast member => ordered.items ast (List.mem_reverse.mp member)

theorem whole (ordered : p.Ordered) : p.whole.Ordered := by
  apply ordered_ofBranches
  intro ast member
  rcases List.mem_cons.mp (List.mem_reverse.mp member) with rfl | member
  · exact ordered.branch
  · exact ordered.branches ast member

theorem transition (ordered : p.Ordered) (changed : Transition p q) : q.Ordered := by
  cases changed with
  | added item =>
    refine ⟨fun ast member => ?_, ordered.branches, ordered.groups⟩
    rcases List.mem_cons.mp member with rfl | member
    · exact item
    · exact ordered.items ast member
  | opened =>
    refine ⟨nofun, nofun, fun g member => ?_⟩
    rcases List.mem_cons.mp member with rfl | member
    · exact ⟨ordered.items, ordered.branches⟩
    · exact ordered.groups g member
  | closed closes =>
    unfold closeGroup? at closes
    split at closes
    · exact nomatch closes
    · next g outer open_ =>
      obtain rfl := Option.some.inj closes
      obtain ⟨items, branches⟩ := ordered.groups g (by simp [open_])
      refine ⟨fun ast member => ?_, branches, fun g' member => ordered.groups g' (by simp_all)⟩
      rcases List.mem_cons.mp member with rfl | member
      · exact ordered.whole
      · exact items ast member
  | branched =>
    refine ⟨nofun, fun ast member => ?_, ordered.groups⟩
    rcases List.mem_cons.mp member with rfl | member
    · exact ordered.branch
    · exact ordered.branches ast member
  | repeated last bounds =>
    refine ⟨fun ast member => ?_, ordered.branches, ordered.groups⟩
    have items := ordered.items
    rw [last] at items
    rcases List.mem_cons.mp member with rfl | member
    · exact ⟨items _ (List.mem_cons_self ..), bounds⟩
    · exact items ast (List.mem_cons_of_mem _ member)

theorem reaches (ordered : p.Ordered) {rest : List Char} (reached : Reaches p cs q rest) :
    q.Ordered := by
  induction reached with
  | here => exact ordered
  | step taken _ ih => exact ih (ordered.transition (step?_transition taken))

end Progress.Ordered

theorem ordered_of_read? {ast : Ast} (found : read? cs = some ast) : ast.Ordered := by
  obtain ⟨q, rest, reached, _, rfl⟩ := read?_eq_some_iff.mp found
  have start : Progress.start.Ordered := ⟨nofun, nofun, nofun⟩
  exact (start.reaches reached).whole

end Ast

theorem proper_oneOf {rs : List Regex} (proper : ∀ r ∈ rs, r.Proper) : (oneOf rs).Proper := by
  induction rs with
  | nil => trivial
  | cons r rest ih =>
    cases rest with
    | nil => exact proper r (List.mem_cons_self ..)
    | cons s rest =>
      exact ⟨proper r (List.mem_cons_self ..), ih fun t member =>
        proper t (List.mem_cons_of_mem _ member)⟩

theorem chars_of_ofLiteral? {f : Flags} {l : Literal} {r : Regex}
    (means : ofLiteral? f l = some r) : ∃ set, r = .chars set := by
  unfold ofLiteral? at means
  split at means
  · exact nomatch means
  · split at means
    · exact ⟨_, (Option.some.inj means).symm⟩
    · exact ⟨_, (Option.some.inj means).symm⟩

theorem chars_of_ofDot? {f : Flags} {r : Regex} (means : ofDot? f = some r) :
    ∃ set, r = .chars set := by
  unfold ofDot? at means
  split at means
  · exact nomatch means
  · split at means
    · exact ⟨_, (Option.some.inj means).symm⟩
    · split at means
      · exact ⟨_, (Option.some.inj means).symm⟩
      · exact ⟨_, (Option.some.inj means).symm⟩

mutual

theorem proper_of_ofAst? {f f' : Flags} {r : Regex} (ast : Ast) (ordered : ast.Ordered)
    (means : ofAst? f ast = some (r, f')) : r.Proper := by
  cases ast with
  | empty =>
    obtain ⟨rfl, _⟩ := Prod.mk.inj (Option.some.inj means)
    trivial
  | flags change =>
    obtain ⟨rfl, _⟩ := Prod.mk.inj (Option.some.inj means)
    trivial
  | assertion a =>
    obtain ⟨rfl, _⟩ := Prod.mk.inj (Option.some.inj means)
    trivial
  | literal l =>
    rw [ofAst?] at means
    obtain ⟨_, whole, same⟩ := Option.map_eq_some_iff.mp means
    obtain ⟨rfl, _⟩ := Prod.mk.inj same
    obtain ⟨set, rfl⟩ := chars_of_ofLiteral? whole
    trivial
  | dot =>
    rw [ofAst?] at means
    obtain ⟨_, whole, same⟩ := Option.map_eq_some_iff.mp means
    obtain ⟨rfl, _⟩ := Prod.mk.inj same
    obtain ⟨set, rfl⟩ := chars_of_ofDot? whole
    trivial
  | shorthand negated name =>
    rw [ofAst?] at means
    obtain ⟨_, _, same⟩ := Option.map_eq_some_iff.mp means
    obtain ⟨rfl, _⟩ := Prod.mk.inj same
    trivial
  | property negated query =>
    rw [ofAst?] at means
    obtain ⟨_, _, same⟩ := Option.map_eq_some_iff.mp means
    obtain ⟨rfl, _⟩ := Prod.mk.inj same
    trivial
  | bracketed negated item =>
    rw [ofAst?] at means
    obtain ⟨_, _, same⟩ := Option.map_eq_some_iff.mp means
    obtain ⟨rfl, _⟩ := Prod.mk.inj same
    trivial
  | repeated item least most few =>
    rw [ofAst?] at means
    obtain ⟨⟨inner, between⟩, whole, same⟩ := Option.map_eq_some_iff.mp means
    obtain ⟨rfl, _⟩ := Prod.mk.inj same
    exact ⟨proper_of_ofAst? item ordered.1 whole, ordered.2⟩
  | group change item remembers =>
    rw [ofAst?] at means
    obtain ⟨⟨inner, between⟩, whole, same⟩ := Option.map_eq_some_iff.mp means
    obtain ⟨rfl, _⟩ := Prod.mk.inj same
    have proper : inner.Proper := proper_of_ofAst? item ordered whole
    exact proper
  | alternation branches =>
    rw [ofAst?] at means
    obtain ⟨⟨inner, between⟩, whole, same⟩ := Option.map_eq_some_iff.mp means
    obtain ⟨rfl, _⟩ := Prod.mk.inj same
    exact proper_oneOf (proper_of_ofAsts? branches ordered whole)
  | concat items =>
    rw [ofAst?] at means
    obtain ⟨⟨inner, between⟩, whole, same⟩ := Option.map_eq_some_iff.mp means
    obtain ⟨rfl, _⟩ := Prod.mk.inj same
    exact proper_concat (proper_of_ofAsts? items ordered whole)

theorem proper_of_ofAsts? {f f' : Flags} {rs : List Regex} (asts : List Ast)
    (ordered : Ast.Ordered.all asts) (means : ofAsts? f asts = some (rs, f')) :
    ∀ r ∈ rs, r.Proper := by
  cases asts with
  | nil =>
    obtain ⟨rfl, _⟩ := Prod.mk.inj (Option.some.inj means)
    nofun
  | cons ast rest =>
    rw [ofAsts?] at means
    obtain ⟨⟨r, between⟩, first, means⟩ := Option.bind_eq_some_iff.mp means
    obtain ⟨⟨others, last⟩, later, same⟩ := Option.map_eq_some_iff.mp means
    obtain ⟨rfl, _⟩ := Prod.mk.inj same
    intro s member
    rcases List.mem_cons.mp member with rfl | member
    · exact proper_of_ofAst? ast ordered.1 first
    · exact proper_of_ofAsts? rest ordered.2 later s member

end

end ReadoutControl.Regex
