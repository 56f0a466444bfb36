import ReadoutControl.Proofs.Text.Words

set_option autoImplicit false

/-!
Texts moved to the right, line by line. Both ways of doing so only put blanks behind line ends, the
one that moves the first line too also in front.
-/

namespace ReadoutControl.Text

/-- The text with every line behind `n` blanks. -/
def indented (n : Nat) (cs : List Char) : List Char :=
  ['\n'].intercalate ((splitAt (· = '\n') cs).map (List.replicate n ' ' ++ ·))

/-- The text with every line but the first behind `n` blanks. -/
def hanging (n : Nat) (cs : List Char) : List Char :=
  match splitAt (· = '\n') cs with
  | [] => []
  | first :: later => ['\n'].intercalate (first :: later.map (List.replicate n ' ' ++ ·))

theorem intercalate_append_cons (mark front : List Char) (first : List Char)
    (later : List (List Char)) :
    mark.intercalate ((front ++ first) :: later) = front ++ mark.intercalate (first :: later) := by
  cases later <;> simp [List.intercalate]

/-- Blanks go where a line ends. -/
theorem hanging_eq (n : Nat) (cs : List Char) :
    hanging n cs = cs.flatMap fun c => if c = '\n' then '\n' :: List.replicate n ' ' else [c] := by
  induction cs with
  | nil => rfl
  | cons c rest ih =>
    obtain ⟨first, later, pieces⟩ := exists_splitAt (· = '\n') rest
    rw [List.flatMap_cons, ← ih, hanging, hanging, splitAt, pieces]
    by_cases newline : c = '\n'
    · have moved := intercalate_append_cons ['\n'] (List.replicate n ' ') first
        (later.map (List.replicate n ' ' ++ ·))
      simpa [newline, List.intercalate] using moved
    · simp [newline]

theorem indented_eq (n : Nat) (cs : List Char) :
    indented n cs = List.replicate n ' ' ++ hanging n cs := by
  obtain ⟨first, later, pieces⟩ := exists_splitAt (· = '\n') cs
  rw [indented, hanging, pieces, List.map_cons, intercalate_append_cons]

theorem hanging_append (n : Nat) (cs ds : List Char) :
    hanging n (cs ++ ds) = hanging n cs ++ hanging n ds := by
  simp only [hanging_eq, List.flatMap_append]

theorem hanging_cons (n : Nat) (c : Char) (cs : List Char) :
    hanging n (c :: cs) =
      (if c = '\n' then '\n' :: List.replicate n ' ' else [c]) ++ hanging n cs := by
  simp only [hanging_eq, List.flatMap_cons]

theorem hanging_of_notMem {n : Nat} {cs : List Char} (single : '\n' ∉ cs) :
    hanging n cs = cs := by
  induction cs with
  | nil => rfl
  | cons c cs ih =>
    obtain ⟨other, single⟩ := not_or.mp (mt List.mem_cons.mpr single)
    rw [hanging_cons, if_neg (Ne.symm other), ih single, List.singleton_append]

/-- The blanks of two moves add up. -/
theorem hanging_hanging (n m : Nat) (cs : List Char) :
    hanging m (hanging n cs) = hanging (m + n) cs := by
  have blanks : '\n' ∉ List.replicate n ' ' := by simp [List.mem_replicate]
  induction cs with
  | nil => rfl
  | cons c cs ih =>
    rw [hanging_cons n, hanging_append, ih, hanging_cons (m + n)]
    split
    · rw [hanging_cons, if_pos rfl, hanging_of_notMem blanks,
        ← List.replicate_append_replicate]
      rfl
    · next other => rw [hanging_of_notMem (by simpa using Ne.symm other)]

end ReadoutControl.Text
