import ReadoutControl.Proofs.Regex.Bounds
import ReadoutControl.Proofs.Regex.Enclosing

set_option autoImplicit false

/-!
What an anchored expression means. The group between the anchors has the flags of the start, and its
own end with it, so the anchors are always the start and the end of the text.
-/

namespace ReadoutControl.Regex

variable {cs expr : List Char} {r : Regex}

/-- What a text means as an expression by itself, however deep it nests and however much memory it
takes. -/
def meaning? (cs : List Char) : Option Regex :=
  (Ast.read? cs).bind fun ast => (ofAst? .standard ast).map (·.1)

/-- A text is an expression by itself. -/
def WellFormed (cs : List Char) : Prop := ∃ r, meaning? cs = some r

instance (cs : List Char) : Decidable (WellFormed cs) :=
  decidable_of_iff ((meaning? cs).isSome = true) Option.isSome_iff_exists

/-- Whether a text, if it is an expression, is one that nests no deeper and takes no more memory than
is allowed. -/
def withinLimits (cs : List Char) : Bool :=
  (Ast.read? cs).all fun ast => ast.depth ≤ Ast.maxDepth &&
    ((ofAst? .standard ast).map (·.1)).all (!isTooLarge ·)

theorem ofText?_eq (cs : List Char) :
    ofText? cs = if withinLimits cs then meaning? cs else none := by
  unfold ofText? withinLimits meaning?
  rw [Ast.parse?_eq]
  cases Ast.read? cs with
  | none => rfl
  | some ast =>
    by_cases shallow : ast.depth ≤ Ast.maxDepth
    · have kept : (some ast).filter (fun ast => ast.depth ≤ Ast.maxDepth) = some ast := by
        simp [Option.filter, shallow]
      rw [kept]
      simp only [Option.bind_some, Option.all_some, shallow, decide_true, Bool.true_and]
      generalize (ofAst? .standard ast).map (·.1) = result
      cases result with
      | none => rfl
      | some r => cases large : isTooLarge r <;> simp [large, Option.filter]
    · simp [shallow, Option.filter]

theorem proper_of_meaning? (means : meaning? cs = some r) : r.Proper := by
  obtain ⟨ast, read, means⟩ := Option.bind_eq_some_iff.mp means
  obtain ⟨⟨s, f⟩, whole, rfl⟩ := Option.map_eq_some_iff.mp means
  exact proper_of_ofAst? ast (Ast.ordered_of_read? read) whole

theorem Flags.change_nil (f : Flags) : f.change [] = f := rfl

theorem ofAst?_enclosed (ast : Ast) :
    (ofAst? .standard (Ast.enclosed ast)).map (·.1) =
      ((ofAst? .standard ast).map (·.1)).map whole := by
  simp only [Ast.enclosed, ofAst?, ofAsts?, Option.bind_some, Flags.change_nil]
  cases ofAst? .standard ast with
  | none => rfl
  | some p => rfl

/-- The anchored form means the expression between the start of a text and its end. It has no meaning
if the expression ends in an open comment, which a closing parenthesis falls into. -/
theorem meaning?_anchored (inside : ¬ Ast.ClosesOutside expr) :
    meaning? (anchored expr) =
      if (Ast.read? (expr ++ [')'])).isSome then none else (meaning? expr).map whole := by
  unfold meaning?
  rw [Ast.read?_anchored inside]
  split
  · rfl
  · cases Ast.read? expr with
    | none => rfl
    | some ast => exact ofAst?_enclosed ast

/-- An expression by itself has the meaning in its anchored form that it has alone. -/
theorem eq_whole_of_meaning?_anchored {s : Regex} (own : meaning? expr = some r)
    (means : meaning? (anchored expr) = some s) : s = whole r := by
  have inside : ¬ Ast.ClosesOutside expr := by
    intro outside
    rw [meaning?, Ast.read?_of_closesOutside outside] at own
    exact nomatch own
  rw [meaning?_anchored inside, own] at means
  obtain ⟨_, same⟩ := Option.ite_none_left_eq_some.mp means
  exact (Option.some.inj same).symm

/-- A closing parenthesis after an expression is part of an expression only if it falls into an open
comment. -/
theorem wellFormed_closing_iff (own : WellFormed expr) :
    WellFormed (expr ++ [')']) ↔ (Ast.read? (expr ++ [')'])).isSome := by
  obtain ⟨r, own⟩ := own
  obtain ⟨ast, read, means⟩ := Option.bind_eq_some_iff.mp own
  constructor
  · rintro ⟨s, means⟩
    obtain ⟨ast, read, _⟩ := Option.bind_eq_some_iff.mp means
    rw [read]
    rfl
  · intro taken
    rcases Ast.read?_closing read with left | same
    · rw [left] at taken
      exact nomatch taken
    · refine ⟨r, ?_⟩
      rw [meaning?, same]
      exact means

end ReadoutControl.Regex
