import ReadoutControl.Regex.Compile
import ReadoutControl.Proofs.Regex.Reading

set_option autoImplicit false

/-!
Reading an expression inside a further group. As long as no parenthesis closes that group, every step
is the one that is taken without it. So the anchored form of an expression is read as the expression
in a group between two anchors, but for two cases: the expression ends in an open comment, which
takes the end of the group too, or it has a parenthesis that closes nothing of its own.
-/

namespace ReadoutControl.Regex.Ast

variable {p q r : Progress} {g : Group} {cs rest text : List Char}

namespace Progress

/-- What has been read, inside a further group around all of it. -/
def within (p : Progress) (g : Group) : Progress := { p with groups := p.groups ++ [g] }

@[simp]
theorem within_free (p : Progress) (g : Group) : (p.within g).free = p.free := rfl

@[simp]
theorem within_names (p : Progress) (g : Group) : (p.within g).names = p.names := rfl

theorem within_groups_ne_nil (p : Progress) (g : Group) : (p.within g).groups ≠ [] := by
  simp [within]

/-- What has been read once the further group is closed. -/
def closing (p : Progress) (g : Group) : Progress :=
  { p with
    groups := []
    items := .group g.change p.whole g.remembers :: g.items
    branches := g.branches
    free := g.free }

theorem closeGroup?_within_of_open (g : Group) (inside : p.groups ≠ []) :
    (p.within g).closeGroup? = p.closeGroup?.map (·.within g) := by
  obtain ⟨groups, items, branches, free, names⟩ := p
  cases groups with
  | nil => exact (inside rfl).elim
  | cons inner outer => rfl

theorem closeGroup?_within_of_closed (g : Group) (outside : p.groups = []) :
    (p.within g).closeGroup? = some (p.closing g) := by
  obtain ⟨groups, items, branches, free, names⟩ := p
  obtain rfl : groups = [] := outside
  rfl

theorem repeatLast?_within (g : Group) (least : Nat) (most : Option Nat) (cs : List Char) :
    (p.within g).repeatLast? least most cs =
      (p.repeatLast? least most cs).map fun q => (q.1.within g, q.2) := by
  obtain ⟨groups, items, branches, free, names⟩ := p
  cases items with
  | nil => rfl
  | cons item rest =>
    simp only [within, repeatLast?]
    split <;> rfl

end Progress

section Steps

theorem openNamed?_within (g : Group) (name : List Char) :
    (p.within g).openNamed? name = (p.openNamed? name).map (·.within g) := by
  unfold Progress.openNamed?
  rw [Progress.within_names]
  by_cases taken : p.names.contains name = true
  · rw [if_pos taken, if_pos taken]
    rfl
  · rw [if_neg taken, if_neg taken]
    rfl

theorem named_within (g : Group) (cs : List Char) :
    named (p.within g) cs = (named p cs).map fun q => (q.1.within g, q.2) := by
  unfold named
  cases groupName? cs with
  | none => rfl
  | some found => simp [openNamed?_within, Function.comp_def]

theorem afterFlags_within (g : Group) (change : FlagChange) (cs : List Char) :
    afterFlags (p.within g) change cs =
      (afterFlags p change cs).map fun q => (q.1.within g, q.2) := by
  cases cs with
  | nil => rfl
  | cons c rest =>
    simp only [afterFlags]
    repeat' split
    all_goals rfl

theorem flagged_within (g : Group) (cs : List Char) :
    flagged (p.within g) cs = (flagged p cs).map fun q => (q.1.within g, q.2) := by
  unfold flagged
  cases flagText [] false false cs with
  | none => rfl
  | some found => exact afterFlags_within g found.1 found.2

theorem question_within (g : Group) (cs : List Char) :
    question (p.within g) cs = (question p cs).map fun q => (q.1.within g, q.2) := by
  unfold question
  split
  · rfl
  · unfold angled
    split
    · rfl
    · exact named_within g _
  · exact named_within g _
  · exact flagged_within g _

theorem openParen?_within (g : Group) (cs : List Char) :
    openParen? (p.within g) cs = (openParen? p cs).map fun q => (q.1.within g, q.2) := by
  rw [openParen?_eq, openParen?_eq]
  unfold afterParen
  rw [Progress.within_free]
  split
  · exact question_within g _
  · rfl

/-- A step inside a further group is the same step, unless it closes that group. -/
theorem step?_within (g : Group) (inside : p.groups ≠ [] ∨ cs.head? ≠ some ')') :
    step? (p.within g) cs = (step? p cs).map fun q => (q.1.within g, q.2) := by
  cases cs with
  | nil => rfl
  | cons c rest =>
    by_cases special : c ∈ ['(', ')', '|', '[', '?', '*', '+', '\x7b']
    · simp only [List.mem_cons, List.not_mem_nil, or_false] at special
      rcases special with rfl | rfl | rfl | rfl | rfl | rfl | rfl | rfl
      · exact openParen?_within g rest
      · have open_ : p.groups ≠ [] := inside.resolve_right fun other => other rfl
        simp only [step?, Progress.closeGroup?_within_of_open g open_, Option.map_map]
        rfl
      · rfl
      · simp only [step?, Option.map_map, Progress.within_free]
        rfl
      · exact Progress.repeatLast?_within g _ _ rest
      · exact Progress.repeatLast?_within g _ _ rest
      · exact Progress.repeatLast?_within g _ _ rest
      · simp only [step?, Progress.within_free]
        cases bounds? p.free rest with
        | none => rfl
        | some bounds => exact Progress.repeatLast?_within g _ _ _
    · rw [step?_primitive special, step?_primitive special, Option.map_map]
      rfl

end Steps

/-- The reader is at a closing parenthesis, and no group is open that it could close. -/
structure Outside (p : Progress) (cs : List Char) : Prop where
  closing : (dropFree p.free cs).head? = some ')'
  closed : p.groups = []

theorem Outside.stuck (outside : Outside p cs) : step? p (dropFree p.free cs) = none := by
  obtain ⟨after, text⟩ := List.head?_eq_some_iff.mp outside.closing
  rw [text]
  simp [step?, Progress.closeGroup?, outside.closed]

theorem Outside.not_done (outside : Outside p cs) : ¬ Done p cs := by
  intro done
  have closing := outside.closing
  rw [done.ended] at closing
  exact nomatch closing

namespace Reaches

/-- What is reached without a further group is reached inside it. -/
theorem within (reached : Reaches p cs q rest) (g : Group) :
    Reaches (p.within g) cs (q.within g) rest := by
  induction reached with
  | here p cs => exact .here _ cs
  | @step p q r cs after rest taken later ih =>
    have inside : p.groups ≠ [] ∨ (dropFree p.free cs).head? ≠ some ')' := by
      by_cases outside : p.groups = []
      · exact .inr fun closing => nomatch (Outside.mk closing outside).stuck.symm.trans taken
      · exact .inl outside
    refine .step ?_ ih
    rw [Progress.within_free, step?_within g inside, taken]
    rfl

/-- What is reached inside a further group is reached without it, or a parenthesis has closed the
group. -/
theorem of_within (reached : Reaches (p.within g) cs r rest) :
    (∃ q, r = q.within g ∧ Reaches p cs q rest) ∨
      ∃ q text after, Reaches p cs q text ∧ q.groups = [] ∧
        dropFree q.free text = ')' :: after ∧ Reaches (q.closing g) after r rest := by
  generalize start : p.within g = inner at reached
  -- The run is split at its first step that is not one of the inner run.
  induction reached generalizing p with
  | here _ cs =>
    subst start
    exact .inl ⟨p, rfl, .here p cs⟩
  | @step _ next r cs after rest taken later ih =>
    subst start
    rw [Progress.within_free] at taken
    by_cases inside : p.groups ≠ [] ∨ (dropFree p.free cs).head? ≠ some ')'
    · rw [step?_within g inside] at taken
      obtain ⟨⟨q, tail⟩, alone, same⟩ := Option.map_eq_some_iff.mp taken
      obtain ⟨rfl, rfl⟩ := Prod.mk.inj same
      rcases ih rfl with ⟨q', rfl, reached⟩ | ⟨q', text, last, reached, found⟩
      · exact .inl ⟨q', rfl, .step alone reached⟩
      · exact .inr ⟨q', text, last, .step alone reached, found⟩
    · simp only [not_or, ne_eq, Classical.not_not] at inside
      obtain ⟨closed, closing⟩ := inside
      obtain ⟨tail, text⟩ := List.head?_eq_some_iff.mp closing
      rw [text] at taken
      simp only [step?, Progress.closeGroup?_within_of_closed g closed, Option.map_some] at taken
      obtain ⟨rfl, rfl⟩ := Prod.mk.inj (Option.some.inj taken)
      exact .inr ⟨p, cs, tail, .here p cs, closed, text, later⟩

end Reaches

section Anchored

/-- The group between the anchors, before which stands the first of them. -/
def between : Group := ⟨[.assertion .lineStart], [], [], false, false⟩

/-- An expression in a group between the two anchors. -/
def enclosed (ast : Ast) : Ast :=
  .concat [.assertion .lineStart, .group [] ast false, .assertion .lineEnd]

/-- A parenthesis of the expression closes nothing in it. -/
def ClosesOutside (cs : List Char) : Prop :=
  ∃ q rest, Reaches .start cs q rest ∧ Outside q rest

theorem read?_of_closesOutside (outside : ClosesOutside cs) : read? cs = none := by
  obtain ⟨q, rest, reached, outside⟩ := outside
  exact read?_eq_none reached outside.stuck outside.not_done

theorem reaches_anchored (expr : List Char) :
    Reaches .start (anchored expr) (Progress.start.within between) (expr ++ [')', '$']) := by
  have anchor : step? .start (anchored expr) = some (Progress.start.add (.assertion .lineStart),
      '(' :: '?' :: ':' :: (expr ++ [')', '$'])) := rfl
  exact .step anchor (.single rfl)

theorem read?_anchored_iff {expr : List Char} {ast : Ast} :
    read? (anchored expr) = some ast ↔
      ∃ q rest, Reaches (Progress.start.within between) (expr ++ [')', '$']) q rest ∧
        Done q rest ∧ q.whole = ast := by
  rw [read?_eq_some_iff]
  constructor
  · rintro ⟨q, rest, reached, done, same⟩
    rcases (reaches_anchored expr).linear reached with later | earlier
    · exact ⟨q, rest, later, done, same⟩
    · obtain ⟨rfl, rfl⟩ := earlier.of_stuck done.stuck
      exact ⟨_, _, .here _ _, done, same⟩
  · rintro ⟨q, rest, reached, done, same⟩
    exact ⟨q, rest, (reaches_anchored expr).trans reached, done, same⟩

/-- Inert text after a whole expression is left, unless a comment is still open. -/
theorem Reaches.end_append {s : List Char} (reached : Reaches .start cs q rest) (done : Done q rest)
    (inert : Inert s) :
    ∃ text, Reaches .start (cs ++ s) q text ∧
      (dropFree q.free text = s ∨ dropFree q.free text = []) := by
  rcases reached.append inert with kept | ⟨_, swallowed⟩
  · refine ⟨_, kept, ?_⟩
    rcases dropFree_append q.free rest with ⟨_, inComment, added⟩ | ⟨something, _⟩
    · rw [added]
      cases inComment with
      | false => exact .inl (dropFree_of_stops inert.stops q.free)
      | true => exact .inr (dropFree_go_inert inert true)
    · exact (something done.ended).elim
  · refine ⟨_, swallowed, .inr ?_⟩
    cases q.free <;> rfl

theorem Done.outside_of_closing (done : Done q rest) (closing : dropFree q.free text = [')']) :
    Outside q text := by
  refine ⟨?_, done.closed⟩
  rw [closing]
  rfl

/-- A closing parenthesis after a whole expression falls into an open comment, or it closes
nothing. -/
theorem read?_closing {expr : List Char} {ast : Ast} (whole : read? expr = some ast) :
    read? (expr ++ [')']) = none ∨ read? (expr ++ [')']) = some ast := by
  obtain ⟨q, rest, reached, done, rfl⟩ := read?_eq_some_iff.mp whole
  obtain ⟨text, reached, closing | swallowed⟩ := reached.end_append done
    (s := [')']) (by simp [Inert])
  · have outside := done.outside_of_closing closing
    exact .inl (read?_eq_none reached outside.stuck outside.not_done)
  · exact .inr (read?_eq_some_iff.mpr ⟨q, text, reached, ⟨swallowed, done.closed⟩, rfl⟩)

/-- An expression that does not take in a closing parenthesis after it is read between the anchors. -/
theorem read?_anchored_of_left {expr : List Char} {ast : Ast} (whole : read? expr = some ast)
    (left : read? (expr ++ [')']) = none) : read? (anchored expr) = some (enclosed ast) := by
  obtain ⟨q, rest, reached, done, rfl⟩ := read?_eq_some_iff.mp whole
  obtain ⟨text, reached, closing | swallowed⟩ := reached.end_append done
    (s := [')']) (by simp [Inert])
  · have dollar : Inert ['$'] := by simp [Inert]
    have something : dropFree q.free text ≠ [] := by simp [closing]
    rcases reached.append dollar with reached | ⟨rfl, _⟩
    · rw [List.append_assoc] at reached
      have ends : dropFree q.free (text ++ ['$']) = [')', '$'] := by
        rcases dropFree_append q.free text with ⟨nothing, _⟩ | ⟨_, added⟩
        · exact (something nothing).elim
        · rw [added, closing]
          rfl
      have closed : step? (q.within between) (dropFree (q.within between).free (text ++ ['$'])) =
          some (q.closing between, ['$']) := by
        rw [Progress.within_free, ends]
        simp [step?, Progress.closeGroup?_within_of_closed between done.closed]
      exact read?_anchored_iff.mpr ⟨(q.closing between).add (.assertion .lineEnd), [],
        (reached.within between).trans (.step closed (.single rfl)), ⟨rfl, rfl⟩, rfl⟩
    · refine (something ?_).elim
      cases q.free <;> rfl
  · have found := read?_eq_some_iff.mpr ⟨q, text, reached, ⟨swallowed, done.closed⟩, rfl⟩
    exact (Option.some_ne_none _ (found.symm.trans left)).elim

/-- Where a group is open at the end of the text, nothing is read. -/
theorem read?_eq_none_of_open (reached : Reaches .start cs q rest)
    (ended : dropFree q.free rest = []) (inside : q.groups ≠ []) : read? cs = none := by
  refine read?_eq_none reached ?_ fun done => inside done.closed
  rw [ended]
  rfl

/-- An expression that takes in a closing parenthesis after it takes the end of the group too. -/
theorem read?_anchored_of_taken {expr : List Char} {ast ast' : Ast} (whole : read? expr = some ast)
    (taken : read? (expr ++ [')']) = some ast') : read? (anchored expr) = none := by
  obtain ⟨q, rest, reached, done, _⟩ := read?_eq_some_iff.mp whole
  obtain ⟨text, reached, closing | swallowed⟩ := reached.end_append done
    (s := [')']) (by simp [Inert])
  · have outside := done.outside_of_closing closing
    exact nomatch (read?_eq_none reached outside.stuck outside.not_done).symm.trans taken
  · obtain ⟨text, reached, dollar | swallowed⟩ := reached.end_append ⟨swallowed, done.closed⟩
      (s := ['$']) (by simp [Inert])
    all_goals
      rw [List.append_assoc] at reached
      have reached := (reaches_anchored expr).trans (reached.within between)
    · have further : step? (q.within between) (dropFree (q.within between).free text) =
          some ((q.within between).add (.assertion .lineEnd), []) := by
        rw [Progress.within_free, dollar]
        rfl
      refine read?_eq_none_of_open (reached.trans (.single further)) ?_
        (Progress.within_groups_ne_nil q between)
      cases ((q.within between).add (.assertion .lineEnd)).free <;> rfl
    · exact read?_eq_none_of_open reached swallowed (Progress.within_groups_ne_nil q between)

/-- A parenthesis that closes the group of the anchored form is not its last character. -/
theorem Outside.two_le_length {expr : List Char} (outside : Outside q text)
    (last : text <:+ expr ++ [')', '$']) : 2 ≤ text.length := by
  apply Nat.le_of_not_lt
  intro short
  have dollar : ['$'] <:+ expr ++ [')', '$'] := ⟨expr ++ [')'], List.append_assoc ..⟩
  have closing := outside.closing
  rcases List.suffix_cons_iff.mp (List.suffix_of_suffix_length_le last dollar
    (Nat.le_of_lt_succ short)) with rfl | nothing
  · rw [dropFree_of_stops (by simp [Stops])] at closing
    simp at closing
  · rw [List.suffix_nil.mp nothing, dropFree_of_stops (by simp [Stops])] at closing
    exact nomatch closing

/-- If the end of the group is left in the anchored form, a closing parenthesis alone is left too. -/
theorem read?_closing_of_left {expr : List Char} (own : Reaches .start expr q rest)
    (closed : q.groups = []) (left : Reaches .start (expr ++ [')', '$']) q (rest ++ [')', '$']))
    (ends : ∀ s, Stops s → dropFree q.free (rest ++ s) = s) : read? (expr ++ [')']) = none := by
  have outside (s : List Char) (closing : s.head? = some ')') : Outside q (rest ++ s) := by
    refine ⟨?_, closed⟩
    rw [ends s (stops_of_closing closing)]
    exact closing
  rcases own.append (s := [')']) (by simp [Inert]) with kept | ⟨_, swallowed⟩
  · exact read?_eq_none kept (outside _ rfl).stuck (outside _ rfl).not_done
  · -- The step that took the parenthesis would have taken it in the anchored form as well.
    have beyond : ∃ short, short.length < 2 ∧ Reaches .start (expr ++ [')', '$']) q short := by
      rcases swallowed.append (s := ['$']) (by simp [Inert]) with further | ⟨_, further⟩
      all_goals
        rw [List.append_assoc] at further
        exact ⟨_, by simp, further⟩
    obtain ⟨short, length, other⟩ := beyond
    have long : 2 ≤ (rest ++ [')', '$']).length := by simp
    have : 2 ≤ short.length := by
      rcases left.linear other with later | earlier
      · obtain ⟨_, rfl⟩ := later.of_stuck (outside _ rfl).stuck
        exact long
      · exact Nat.le_trans long earlier.suffix.length_le
    omega

/-- What is read between the anchors is an expression of its own, or it closes the group. -/
theorem of_read?_anchored {expr : List Char} {ast : Ast} (found : read? (anchored expr) = some ast) :
    ClosesOutside expr ∨ ∃ inner, read? expr = some inner ∧ read? (expr ++ [')']) = none := by
  obtain ⟨r, rest, reached, done, _⟩ := read?_anchored_iff.mp found
  rcases reached.of_within with ⟨q, rfl, _⟩ | ⟨q, text, after, reached, closed, closing, _⟩
  · exact (Progress.within_groups_ne_nil q between done.closed).elim
  · have outside : Outside q text := ⟨by rw [closing]; rfl, closed⟩
    obtain ⟨before, rfl, own⟩ := reached.of_append rfl (outside.two_le_length reached.suffix)
    rcases dropFree_append q.free before with ⟨nothing, inComment, added⟩ | ⟨something, added⟩
    · right
      refine ⟨q.whole, read?_eq_some_iff.mpr ⟨q, before, own, ⟨nothing, closed⟩, rfl⟩, ?_⟩
      cases inComment with
      | true =>
        rw [added] at closing
        exact nomatch closing
      | false =>
        refine read?_closing_of_left own closed reached fun s stops => ?_
        rw [added, if_neg Bool.false_ne_true, dropFree_of_stops stops]
    · left
      refine ⟨q, before, own, ?_, closed⟩
      obtain ⟨c, more, text⟩ := List.exists_cons_of_ne_nil something
      rw [added, text] at closing
      rw [text]
      exact congrArg some (List.cons.inj closing).1

/-- How the anchored form of an expression is read. -/
theorem read?_anchored {expr : List Char} (inside : ¬ ClosesOutside expr) :
    read? (anchored expr) =
      if (read? (expr ++ [')'])).isSome then none else (read? expr).map enclosed := by
  cases whole : read? expr with
  | none =>
    have missing : read? (anchored expr) = none := by
      rw [Option.eq_none_iff_forall_not_mem]
      intro ast found
      obtain ⟨inner, own, _⟩ := (of_read?_anchored found).resolve_left inside
      exact nomatch whole.symm.trans own
    rw [missing]
    split <;> rfl
  | some ast =>
    cases after : read? (expr ++ [')']) with
    | none => exact read?_anchored_of_left whole after
    | some _ => exact read?_anchored_of_taken whole after

end Anchored

end ReadoutControl.Regex.Ast
