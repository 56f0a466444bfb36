import ReadoutControl.Proofs.Regex.Stepping

set_option autoImplicit false

/-!
Reading an expression as a sequence of steps. Every step takes some of the text, so the fuel of the
loop does not matter, and no step depends on text that it does not take, so what has been read of an
expression stays the same in a longer one.
-/

namespace ReadoutControl.Regex.Ast

variable {p q r : Progress} {cs rest text : List Char}

/-- From `p` before the text `cs`, steps lead to `q` before the text `rest`. -/
inductive Reaches : Progress → List Char → Progress → List Char → Prop
  | here (p : Progress) (cs : List Char) : Reaches p cs p cs
  | step {p q r : Progress} {cs after rest : List Char} :
      step? p (dropFree p.free cs) = some (q, after) → Reaches q after r rest → Reaches p cs r rest

namespace Reaches

theorem single {after : List Char} (taken : step? p (dropFree p.free cs) = some (q, after)) :
    Reaches p cs q after :=
  .step taken (.here q after)

theorem trans (first : Reaches p cs q rest) (second : Reaches q rest r text) :
    Reaches p cs r text := by
  induction first with
  | here => exact second
  | step taken _ ih => exact .step taken (ih second)

theorem suffix (reached : Reaches p cs q rest) : rest <:+ cs := by
  induction reached with
  | here => exact List.suffix_refl _
  | @step p q r cs after rest taken _ ih =>
    have taken := ((local_step? p).takes (Nat.lt_succ_self _) taken).1
    exact ih.trans (taken.trans (dropFree_suffix p.free cs))

/-- Where no further step can be taken, nothing else is reached. -/
theorem of_stuck (stuck : step? p (dropFree p.free cs) = none) (reached : Reaches p cs q rest) :
    q = p ∧ rest = cs := by
  cases reached with
  | here => exact ⟨rfl, rfl⟩
  | step taken _ => exact nomatch stuck.symm.trans taken

/-- Steps have one outcome, so of two places one is reached from the other. -/
theorem linear (first : Reaches p cs q rest) (second : Reaches p cs r text) :
    Reaches q rest r text ∨ Reaches r text q rest := by
  induction first with
  | here => exact .inl second
  | step taken later ih =>
    cases second with
    | here => exact .inr (.step taken later)
    | step also second =>
      obtain ⟨rfl, rfl⟩ := Prod.mk.inj (Option.some.inj (taken.symm.trans also))
      exact ih second

/-- Inert text after what is read is left, or it falls into an open comment with all the rest. -/
theorem append {s : List Char} (inert : Inert s) (reached : Reaches p cs q rest) :
    Reaches p (cs ++ s) q (rest ++ s) ∨ (rest = [] ∧ Reaches p (cs ++ s) q []) := by
  induction reached with
  | here p cs => exact .inl (.here p (cs ++ s))
  | @step p q r cs after rest taken later ih =>
    have dropped := ((local_dropFree p.free).dropped (local_step? p)).append (Nat.lt_succ_self _)
      inert taken
    rcases dropped with kept | ⟨rfl, swallowed⟩
    · rcases ih with left | ⟨nothing, swallowed⟩
      · exact .inl (.step kept left)
      · exact .inr ⟨nothing, .step kept swallowed⟩
    · -- The step has taken all the text, so it was the last one.
      obtain ⟨rfl, rfl⟩ := later.of_stuck (by cases q.free <;> rfl)
      exact .inr ⟨rfl, .single swallowed⟩

/-- Text that begins with a closing parenthesis may be cut off after what is read. -/
theorem of_append {s : List Char} (closing : s.head? = some ')')
    (reached : Reaches p (cs ++ s) q rest) (left : s.length ≤ rest.length) :
    ∃ rest₀, rest = rest₀ ++ s ∧ Reaches p cs q rest₀ := by
  generalize whole : cs ++ s = text at reached
  induction reached generalizing cs with
  | here p text =>
    subst whole
    exact ⟨cs, rfl, .here p cs⟩
  | @step p q r text after rest taken later ih =>
    subst whole
    -- What is left in the end was left by this step too.
    have long := later.suffix.length_le
    obtain ⟨after₀, kept, rfl⟩ := ((local_dropFree p.free).dropped (local_step? p)).of_append
      (Nat.lt_succ_self _) closing taken (by omega)
    obtain ⟨rest₀, same, later⟩ := ih left rfl
    exact ⟨rest₀, same, .step kept later⟩

end Reaches

/-- The reader is at the end of the text and no group is open. -/
structure Done (p : Progress) (cs : List Char) : Prop where
  ended : dropFree p.free cs = []
  closed : p.groups = []

theorem Done.stuck (done : Done p cs) : step? p (dropFree p.free cs) = none := by
  rw [done.ended]
  rfl

theorem run?_of_reaches (reached : Reaches p cs q rest) (done : Done q rest) {fuel : Nat}
    (enough : cs.length < fuel) : run? fuel p cs = some q.whole := by
  induction reached generalizing fuel with
  | here p cs =>
    obtain ⟨fuel, rfl⟩ : ∃ m, fuel = m + 1 := ⟨fuel - 1, by omega⟩
    simp [run?, done.ended, done.closed]
  | @step p q r cs after rest taken later ih =>
    obtain ⟨fuel, rfl⟩ : ∃ m, fuel = m + 1 := ⟨fuel - 1, by omega⟩
    have shorter := ((local_step? p).takes (Nat.lt_succ_self _) taken).2
    have dropped := (dropFree_suffix p.free cs).length_le
    rw [run?]
    split
    · next nothing =>
      rw [nothing] at taken
      exact nomatch taken
    · rw [taken]
      exact ih done (by omega)

theorem reaches_of_run? {fuel : Nat} {ast : Ast} (found : run? fuel p cs = some ast) :
    ∃ q rest, Reaches p cs q rest ∧ Done q rest ∧ q.whole = ast := by
  induction fuel generalizing p cs with
  | zero => exact nomatch found
  | succ fuel ih =>
    rw [run?] at found
    split at found
    · next nothing =>
      obtain ⟨closed, same⟩ := Option.ite_none_right_eq_some.mp found
      exact ⟨p, cs, .here p cs, ⟨nothing, List.isEmpty_iff.mp closed⟩, Option.some.inj same⟩
    · obtain ⟨⟨next, after⟩, taken, found⟩ := Option.bind_eq_some_iff.mp found
      obtain ⟨q, rest, reached, done⟩ := ih found
      exact ⟨q, rest, .step taken reached, done⟩

/-- Reads a whole expression, however deep its parts nest. -/
def read? (cs : List Char) : Option Ast := run? (cs.length + 1) .start cs

theorem parse?_eq (cs : List Char) :
    parse? cs = (read? cs).filter fun ast => ast.depth ≤ maxDepth := rfl

theorem read?_eq_some_iff {cs : List Char} {ast : Ast} :
    read? cs = some ast ↔ ∃ q rest, Reaches .start cs q rest ∧ Done q rest ∧ q.whole = ast := by
  constructor
  · exact reaches_of_run?
  · rintro ⟨q, rest, reached, done, rfl⟩
    exact run?_of_reaches reached done (Nat.lt_succ_self _)

/-- An expression is not read if its reader comes to where it can neither go on nor stop. -/
theorem read?_eq_none (reached : Reaches .start cs q rest)
    (stuck : step? q (dropFree q.free rest) = none) (open_ : ¬ Done q rest) : read? cs = none := by
  rw [Option.eq_none_iff_forall_not_mem]
  intro ast found
  obtain ⟨r, text, other, done, _⟩ := read?_eq_some_iff.mp found
  rcases reached.linear other with later | earlier
  · obtain ⟨rfl, rfl⟩ := later.of_stuck stuck
    exact open_ done
  · obtain ⟨rfl, rfl⟩ := earlier.of_stuck done.stuck
    exact open_ done

end ReadoutControl.Regex.Ast
