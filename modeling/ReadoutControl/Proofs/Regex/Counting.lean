import ReadoutControl.Proofs.Regex.Scanning

set_option autoImplicit false

/-!
The readers of counts and flags are local, and the bounds of a repetition are in order.
-/

namespace ReadoutControl.Regex

variable {α : Type} {n : Nat}

section Counts

theorem digitRun_cons (free : Bool) {c : Char} (digit : c.isDigit = true) (rest : List Char) :
    count?.digitRun free (c :: rest) =
      (c :: (count?.digitRun free (dropFree free rest)).1,
        (count?.digitRun free (dropFree free rest)).2) := by
  rw [count?.digitRun, if_pos digit]

theorem digitRun_of_head {cs : List Char} (other : ∀ c, cs.head? = some c → c.isDigit = false)
    (free : Bool) : count?.digitRun free cs = ([], cs) := by
  cases cs with
  | nil => rw [count?.digitRun]
  | cons c rest => rw [count?.digitRun, if_neg (Bool.eq_false_iff.mp (other c rfl))]

/-- A comment after a digit may be open, and then it takes in what is added. -/
theorem local_digitRun (free : Bool) : Local n 0 0 fun cs => some (count?.digitRun free cs) := by
  have all : ∀ m (_ : Unit), Local m 0 0 fun cs => some (count?.digitRun free cs) := by
    apply Local.recursion
    intro m shorter _
    refine .onKind (p := Char.isDigit) ⟨rfl, rfl⟩ ?_ (.pure []) ?_
    · intro c digit
      refine ((local_dropFree free).dropped ((shorter ()).map (c :: ·))).congr ?_
      intro rest
      rw [digitRun_cons free digit]
      rfl
    · intro cs other
      rw [digitRun_of_head other]
  exact all n ()

/-- The number of a count that has some digits, if it fits into 32 bits. -/
def countOf? (digits : List Char) : Option (Option Nat) :=
  if digits.isEmpty then some none
  else (Text.digits? 10 digits).bind fun n => if n < UInt32.size then some (some n) else none

theorem local_count? (free : Bool) : Local n 0 0 (count? free) := by
  have blanks : Local n 0 0 fun cs : List Char => some ((), cs.dropWhile Text.isBlank) :=
    local_dropWhile rfl rfl
  have number (ds : List Char) : Local n 0 0 fun cs =>
      (countOf? ds).map (·, cs.dropWhile Text.isBlank) :=
    blanks.dropped (.value (countOf? ds))
  refine (blanks.dropped ((local_digitRun free).bind number (Nat.le_refl 0))).congr fun cs => ?_
  simp only [count?, countOf?, Option.bind_some]
  split
  · rfl
  · cases Text.digits? 10 _ with
    | none => rfl
    | some n =>
      simp only [Option.bind_some]
      split <;> rfl

-- A comment between digits ends with its line; one that is open takes in a parenthesis too.
example : count? true ['1', '#', 'c', '\n', '2', ','] = some (some 12, [',']) ∧
    count? true ['1', '#', 'c', ')'] = some (some 1, []) := by
  decide +kernel

theorem mark_brace (a : α) (cs : List Char) :
    mark '\x7d' a cs = match cs with
      | '\x7d' :: rest => some (a, rest)
      | _ => none := by
  cases cs with
  | nil => rfl
  | cons c rest =>
    by_cases brace : c = '\x7d'
    · subst brace
      rfl
    · simp [mark, brace]

/-- Reads the most a repetition may have after the least and a comma. -/
def highBound (free : Bool) (least : Option Nat) : Reader (Nat × Option Nat)
  | '\x7d' :: rest => least.map fun low => ((low, none), rest)
  | cs => least.bind fun low => (count? free cs).bind fun p =>
      p.1.bind fun high => if low ≤ high then mark '\x7d' (low, some high) p.2 else none

/-- Reads what follows the first count of a repetition. -/
def afterLeast (free : Bool) (least : Option Nat) : Reader (Nat × Option Nat)
  | [] => none
  | c :: rest =>
    if c = ',' then (advance? free rest).bind (highBound free least)
    else if c = '\x7d' then least.map fun n => ((n, some n), rest)
    else none

theorem local_highBound (free : Bool) (least : Option Nat) :
    Local n 1 0 (highBound free least) := by
  have ended (low : Nat) (high : Option Nat) : Local n 1 0 fun cs =>
      high.bind fun high => if low ≤ high then mark '\x7d' (low, some high) cs else none := by
    cases high with
    | none => exact .none
    | some high => exact .ite (local_mark '\x7d' _) .none
  have counted : Local n 1 0 fun cs => least.bind fun low => (count? free cs).bind fun p =>
      p.1.bind fun high => if low ≤ high then mark '\x7d' (low, some high) p.2 else none := by
    cases least with
    | none => exact .none
    | some low => exact (local_count? free).bind (ended low) (Nat.zero_le _)
  have unbounded : Local (n - 1) 0 0 fun rest => highBound free least ('\x7d' :: rest) :=
    (Local.value (least.map fun low => (low, none))).congr fun cs => by
      cases least <;> rfl
  refine .onHead (by decide) unbounded counted fun cs other => ?_
  unfold highBound
  split
  · exact (other rfl).elim
  · rfl

theorem highBound_eq (free : Bool) (least : Option Nat) (cs : List Char) :
    highBound free least cs = (do
      match cs with
      | '\x7d' :: after => return ((← least, none), after)
      | rest =>
        let low ← least
        let (high, rest) ← count? free rest
        let high ← high
        match rest with
        | '\x7d' :: after => if low ≤ high then some ((low, some high), after) else none
        | _ => none) := by
  unfold highBound
  split
  · cases least <;> rfl
  · cases least with
    | none => rfl
    | some low =>
      simp only [Option.bind_eq_bind, Option.bind_some]
      cases count? free cs with
      | none => rfl
      | some p =>
        obtain ⟨high, after⟩ := p
        simp only [Option.bind_some]
        cases high with
        | none => rfl
        | some high =>
          simp only [Option.bind_some, mark_brace]
          by_cases ordered : low ≤ high
          · simp only [ordered, if_true]
          · simp only [ordered, if_false]
            split <;> rfl

theorem local_afterLeast (free : Bool) (least : Option Nat) :
    Local n 1 0 (afterLeast free least) := by
  refine .of_cons rfl fun c => ?_
  have high := (local_advance? free (local_highBound (n := n - 1) free least) (Nat.le_refl 1)).relax
  have exactly : Local (n - 1) 0 0 fun rest => least.map fun m => ((m, some m), rest) :=
    (Local.value (least.map fun m => (m, some m))).congr fun cs => by
      cases least <;> rfl
  exact .ite high (.ite exactly .none)

theorem bounds?_eq (free : Bool) (cs : List Char) :
    bounds? free cs = (advance? free cs).bind fun cs =>
      (count? free cs).bind fun p => afterLeast free p.1 p.2 := by
  unfold bounds?
  cases advance? free cs with
  | none => rfl
  | some text =>
    simp only [Option.bind_eq_bind, Option.bind_some]
    cases count? free text with
    | none => rfl
    | some p =>
      obtain ⟨least, rest⟩ := p
      simp only [Option.bind_some]
      split
      · next rest =>
        simp only [afterLeast, if_true]
        cases advance? free rest with
        | none => rfl
        | some text => exact (highBound_eq free least text).symm
      · cases least <;> rfl
      · next comma brace =>
        cases rest with
        | nil => rfl
        | cons c rest =>
          have noComma : c ≠ ',' := fun same => comma rest (congrArg (· :: rest) same)
          have noBrace : c ≠ '\x7d' := fun same => brace rest (congrArg (· :: rest) same)
          rw [afterLeast, if_neg noComma, if_neg noBrace]

theorem local_bounds? (free : Bool) : Local n 1 0 (bounds? free) := by
  have counts : Local n 1 0 fun cs => (count? free cs).bind fun p => afterLeast free p.1 p.2 :=
    (local_count? free).bind (local_afterLeast free) (Nat.zero_le _)
  exact (local_advance? free counts (Nat.le_refl 1)).congr (bounds?_eq free)

theorem local_fewFirst : Local n 0 0 fun cs => some (fewFirst cs) := by
  refine .of_stops (fun cs => ?_) fun cs s stops => ?_
  · unfold fewFirst
    split
    · exact List.suffix_cons ..
    · exact List.suffix_refl _
  · cases cs with
    | nil =>
      cases s with
      | nil => rfl
      | cons c rest => rcases stops c rfl with rfl | rfl <;> rfl
    | cons c rest =>
      unfold fewFirst
      by_cases question : c = '?'
      · subst question
        rfl
      · simp [question]

/-- Flags with what follows them. -/
def flagText (change : FlagChange) (negated dangling : Bool) : Reader FlagChange := fun cs =>
  (flags? change negated dangling cs).map fun p => (p.1, p.2.2)

theorem flagText_cons (change : FlagChange) (negated dangling : Bool) (c : Char)
    (rest : List Char) : flagText change negated dangling (c :: rest) =
      if c = ':' ∨ c = ')' then if dangling then none else some (change.reverse, c :: rest)
      else if c = '-' then if negated then none else flagText change true true rest
      else if ['i', 'm', 's', 'U', 'u', 'R', 'x'].contains c then
        if change.any (·.1 == c) then none
        else flagText ((c, !negated) :: change) negated false rest
      else none := by
  simp only [flagText, flags?]
  repeat' split
  all_goals rfl

theorem flagText_takes {change : FlagChange} {negated dangling : Bool} {cs : List Char}
    {a : FlagChange} {r : List Char} (found : flagText change negated dangling cs = some (a, r)) :
    r <:+ cs := by
  induction cs generalizing change negated dangling with
  | nil => exact nomatch found
  | cons c rest ih =>
    rw [flagText_cons] at found
    split at found
    · obtain ⟨_, same⟩ := Option.ite_none_left_eq_some.mp found
      obtain ⟨-, rfl⟩ := Prod.mk.inj (Option.some.inj same)
      exact List.suffix_refl _
    · split at found
      · exact (ih (Option.ite_none_left_eq_some.mp found).2).trans (List.suffix_cons ..)
      · split at found
        · exact (ih (Option.ite_none_left_eq_some.mp found).2).trans (List.suffix_cons ..)
        · exact nomatch found

theorem flagText_append {change : FlagChange} {negated dangling : Bool} {cs : List Char}
    {a : FlagChange} {r : List Char} (s : List Char)
    (found : flagText change negated dangling cs = some (a, r)) :
    flagText change negated dangling (cs ++ s) = some (a, r ++ s) := by
  induction cs generalizing change negated dangling with
  | nil => exact nomatch found
  | cons c rest ih =>
    rw [List.cons_append, flagText_cons]
    rw [flagText_cons] at found
    by_cases stop : c = ':' ∨ c = ')'
    · rw [if_pos stop] at found ⊢
      obtain ⟨said, same⟩ := Option.ite_none_left_eq_some.mp found
      obtain ⟨rfl, rfl⟩ := Prod.mk.inj (Option.some.inj same)
      rw [if_neg said]
      rfl
    · rw [if_neg stop] at found ⊢
      by_cases hyphen : c = '-'
      · rw [if_pos hyphen] at found ⊢
        obtain ⟨first, later⟩ := Option.ite_none_left_eq_some.mp found
        rw [if_neg first, ih later]
      · rw [if_neg hyphen] at found ⊢
        obtain ⟨flag, found⟩ := Option.ite_none_right_eq_some.mp found
        obtain ⟨first, later⟩ := Option.ite_none_left_eq_some.mp found
        rw [if_pos flag, if_neg first, ih later]

theorem flagText_of_append {change : FlagChange} {negated dangling : Bool} {cs s : List Char}
    {a : FlagChange} {r : List Char}
    (found : flagText change negated dangling (cs ++ s) = some (a, r))
    (left : s.length + 1 ≤ r.length) :
    ∃ r₀, flagText change negated dangling cs = some (a, r₀) ∧ r = r₀ ++ s := by
  induction cs generalizing change negated dangling with
  | nil =>
    have := (flagText_takes found).length_le
    rw [List.nil_append] at this
    omega
  | cons c rest ih =>
    rw [List.cons_append, flagText_cons] at found
    rw [flagText_cons]
    by_cases stop : c = ':' ∨ c = ')'
    · rw [if_pos stop] at found ⊢
      obtain ⟨said, same⟩ := Option.ite_none_left_eq_some.mp found
      obtain ⟨rfl, rfl⟩ := Prod.mk.inj (Option.some.inj same)
      rw [if_neg said]
      exact ⟨_, rfl, rfl⟩
    · rw [if_neg stop] at found ⊢
      by_cases hyphen : c = '-'
      · rw [if_pos hyphen] at found ⊢
        obtain ⟨first, later⟩ := Option.ite_none_left_eq_some.mp found
        rw [if_neg first]
        exact ih later
      · rw [if_neg hyphen] at found ⊢
        obtain ⟨flag, found⟩ := Option.ite_none_right_eq_some.mp found
        obtain ⟨first, later⟩ := Option.ite_none_left_eq_some.mp found
        rw [if_pos flag, if_neg first]
        exact ih later

theorem local_flagText (change : FlagChange) (negated dangling : Bool) :
    Local n 0 1 (flagText change negated dangling) where
  takes _ found := ⟨flagText_takes found, (flagText_takes found).length_le⟩
  append {_ _ _ s} _ _ found := .inl (flagText_append s found)
  of_append _ _ found left := flagText_of_append found left

end Counts

section Order

variable {free : Bool} {cs rest : List Char} {least n : Nat} {most : Option Nat}

theorem mark_eq_some {α : Type} {c : Char} {a b : α} (found : mark c a cs = some (b, rest)) :
    b = a := by
  cases cs with
  | nil => exact nomatch found
  | cons d tail =>
    obtain ⟨_, same⟩ := Option.ite_none_right_eq_some.mp found
    exact (Prod.mk.inj (Option.some.inj same)).1.symm

theorem highBound_ordered {low : Option Nat}
    (found : highBound free low cs = some ((least, some n), rest)) : least ≤ n := by
  unfold highBound at found
  split at found
  · obtain ⟨_, _, same⟩ := Option.map_eq_some_iff.mp found
    exact nomatch same
  · obtain ⟨low, _, found⟩ := Option.bind_eq_some_iff.mp found
    obtain ⟨_, _, found⟩ := Option.bind_eq_some_iff.mp found
    obtain ⟨high, _, found⟩ := Option.bind_eq_some_iff.mp found
    obtain ⟨ordered, found⟩ := Option.ite_none_right_eq_some.mp found
    obtain ⟨rfl, same⟩ := Prod.mk.inj (mark_eq_some found)
    obtain rfl := Option.some.inj same
    exact ordered

theorem afterLeast_ordered {low : Option Nat}
    (found : afterLeast free low cs = some ((least, some n), rest)) : least ≤ n := by
  cases cs with
  | nil => exact nomatch found
  | cons c tail =>
    rw [afterLeast] at found
    split at found
    · obtain ⟨_, _, found⟩ := Option.bind_eq_some_iff.mp found
      exact highBound_ordered found
    · obtain ⟨_, found⟩ := Option.ite_none_right_eq_some.mp found
      obtain ⟨m, _, same⟩ := Option.map_eq_some_iff.mp found
      obtain ⟨bounds, _⟩ := Prod.mk.inj same
      obtain ⟨rfl, most⟩ := Prod.mk.inj bounds
      exact Nat.le_of_eq (Option.some.inj most)

/-- The most a repetition may have is no less than the least. -/
theorem bounds?_ordered (found : bounds? free cs = some ((least, most), rest)) :
    ∀ n, most = some n → least ≤ n := by
  rintro n rfl
  rw [bounds?_eq] at found
  obtain ⟨_, _, found⟩ := Option.bind_eq_some_iff.mp found
  obtain ⟨_, _, found⟩ := Option.bind_eq_some_iff.mp found
  exact afterLeast_ordered found

end Order

end ReadoutControl.Regex
