import ReadoutControl.Proofs.Regex.Anchoring

set_option autoImplicit false

/-!
Plain text is an expression that matches itself and nothing else. It is plain if no character of it
is an operator, an anchor, a dot or a backslash; blanks and comments count as text, since no flag can
be set.
-/

namespace ReadoutControl.Regex

variable {cs s : List Char}

/-- The characters that do not stand for themselves outside of brackets. -/
def operators : List Char :=
  ['(', ')', '|', '[', '?', '*', '+', '\x7b', '\\', '.', '^', '$']

def IsPlain (cs : List Char) : Prop := ∀ c ∈ cs, c ∉ operators

namespace Ast

def ofText (cs : List Char) : List Ast := cs.map fun c => .literal ⟨c, false⟩

/-- What has been read once plain text is added. -/
def Progress.addText (p : Progress) (cs : List Char) : Progress :=
  { p with items := (ofText cs).reverse ++ p.items }

theorem step?_plain {p : Progress} {c : Char} (plain : c ∉ operators) (rest : List Char) :
    step? p (c :: rest) = some (p.add (.literal ⟨c, false⟩), rest) := by
  simp only [operators, List.mem_cons, List.not_mem_nil, or_false, not_or] at plain
  rw [step?_primitive (by simp [plain]), primitive?_literal (by simp [plain])]
  rfl

theorem reaches_plain {p : Progress} (blanks : p.free = false) (plain : IsPlain cs) :
    Reaches p (cs ++ s) (p.addText cs) s := by
  induction cs generalizing p with
  | nil => exact .here p s
  | cons c rest ih =>
    rw [IsPlain, List.forall_mem_cons] at plain
    have first : step? p (dropFree p.free (c :: rest ++ s)) =
        some (p.add (.literal ⟨c, false⟩), rest ++ s) := by
      rw [blanks]
      exact step?_plain plain.1 (rest ++ s)
    have later := ih (p := p.add (.literal ⟨c, false⟩)) blanks plain.2
    have same : (p.add (.literal ⟨c, false⟩)).addText rest = p.addText (c :: rest) := by
      simp [Progress.addText, Progress.add, ofText]
    rw [same] at later
    exact .step first later

theorem read?_plain (plain : IsPlain cs) : read? cs = some (ofItems (ofText cs)) := by
  have reached := reaches_plain (s := []) (p := .start) rfl plain
  rw [List.append_nil] at reached
  refine read?_eq_some_iff.mpr ⟨_, _, reached, ⟨rfl, rfl⟩, ?_⟩
  simp [Progress.whole, Progress.branch, Progress.addText, Progress.start, ofBranches]

theorem read?_plain_closing (plain : IsPlain cs) : read? (cs ++ [')']) = none := by
  have outside : Outside (Progress.start.addText cs) [')'] := ⟨rfl, rfl⟩
  exact read?_eq_none (reaches_plain rfl plain) outside.stuck outside.not_done

end Ast

/-- The expression that matches just a text. -/
def ofChars (cs : List Char) : Regex := concat (cs.map fun c => .chars (CharSet.single c))

theorem ofAsts?_text (cs : List Char) :
    ofAsts? .standard (Ast.ofText cs) =
      some (cs.map fun c => .chars (CharSet.single c), .standard) := by
  induction cs with
  | nil => rfl
  | cons c rest ih =>
    have first : ofAst? .standard (.literal ⟨c, false⟩) =
        some (.chars (CharSet.single c), .standard) := rfl
    rw [Ast.ofText] at ih
    simp only [Ast.ofText, List.map_cons, ofAsts?, first, Option.bind_some, ih, Option.map_some]

theorem meaning?_plain (plain : IsPlain cs) : meaning? cs = some (ofChars cs) := by
  rw [meaning?, Ast.read?_plain plain, Option.bind_some]
  cases cs with
  | nil => rfl
  | cons c rest =>
    cases rest with
    | nil => rfl
    | cons d rest =>
      have all := ofAsts?_text (c :: d :: rest)
      simp only [Ast.ofText, List.map_cons] at all
      simp only [Ast.ofText, List.map_cons, Ast.ofItems, ofAst?, all]
      rfl

theorem meaning?_anchored_plain (plain : IsPlain cs) :
    meaning? (anchored cs) = some (whole (ofChars cs)) := by
  have inside : ¬ Ast.ClosesOutside cs := fun outside =>
    nomatch (Ast.read?_of_closesOutside outside).symm.trans (Ast.read?_plain plain)
  rw [meaning?_anchored inside, Ast.read?_plain_closing plain, meaning?_plain plain]
  rfl

theorem proper_ofChars (cs : List Char) : (ofChars cs).Proper := by
  apply proper_concat
  intro r member
  obtain ⟨c, _, rfl⟩ := List.mem_map.mp member
  trivial

/-- A step over one character, then the rest of the text. -/
theorem matches_ofChars_cons {text : List Char} {c : Char} {rest : List Char} {i j : Nat} :
    Matches text.toArray (ofChars (c :: rest)) i j ↔
      text[i]? = some c ∧ Matches text.toArray (ofChars rest) (i + 1) j := by
  unfold ofChars
  cases rest with
  | nil =>
    rw [List.map_cons, List.map_nil]
    constructor
    · intro found
      obtain ⟨here, rfl⟩ := matches_single_iff.mp found
      exact ⟨here, .empty (List.getElem?_eq_some_iff.mp here).1⟩
    · rintro ⟨here, ⟨⟩⟩
      exact matches_single_iff.mpr ⟨here, rfl⟩
  | cons d rest =>
    rw [List.map_cons, concat_cons (by simp)]
    constructor
    · rintro ⟨⟩
      next k once later =>
        obtain ⟨here, rfl⟩ := matches_single_iff.mp once
        exact ⟨here, later⟩
    · rintro ⟨here, later⟩
      exact .seq (matches_single_iff.mpr ⟨here, rfl⟩) later

theorem matches_ofChars_iff {text : List Char} {i j : Nat} (within : i ≤ text.length) :
    Matches text.toArray (ofChars cs) i j ↔ cs <+: text.drop i ∧ j = i + cs.length := by
  induction cs generalizing i with
  | nil =>
    constructor
    · rintro ⟨⟩
      exact ⟨List.nil_prefix, rfl⟩
    · rintro ⟨_, rfl⟩
      exact .empty within
  | cons c rest ih =>
    rw [matches_ofChars_cons]
    constructor
    · rintro ⟨here, later⟩
      obtain ⟨inside, rfl⟩ := List.getElem?_eq_some_iff.mp here
      obtain ⟨begins, rfl⟩ := (ih inside).mp later
      rw [List.drop_eq_getElem_cons inside, List.length_cons]
      exact ⟨(List.prefix_cons_inj _).mpr begins, by omega⟩
    · rintro ⟨begins, rfl⟩
      have inside : i < text.length := by
        have := begins.length_le
        simp only [List.length_cons, List.length_drop] at this
        omega
      rw [List.drop_eq_getElem_cons inside, List.cons_prefix_cons] at begins
      obtain ⟨rfl, begins⟩ := begins
      refine ⟨List.getElem?_eq_getElem inside, (ih inside).mpr ⟨begins, ?_⟩⟩
      rw [List.length_cons]
      omega

theorem isMatch_whole_ofChars_iff {name : String} :
    (whole (ofChars cs)).isMatch name = true ↔ name.toList = cs := by
  rw [isMatch_whole_iff (proper_ofChars cs), matches_ofChars_iff (Nat.zero_le _), List.drop_zero]
  constructor
  · rintro ⟨begins, length⟩
    exact (begins.eq_of_length (by omega)).symm
  · rintro rfl
    exact ⟨List.prefix_refl _, by simp⟩

end ReadoutControl.Regex
