import ReadoutControl.Proofs.Json.Finite
import ReadoutControl.Proofs.Number.Shortest

set_option autoImplicit false

/-!
Which numerals are read as a number. Scaling down always gives one. Scaling up does where the digits
that were gathered stand for no more than the middle of the two largest finite numbers.
-/

namespace ReadoutControl.Json.Numeral

open Decimal (natOfDigits digitValue topMiddle value)

/-- The number that digits are appended to, digit by digit. -/
def appendDigits (n : Nat) (cs : List Char) : Nat := cs.foldl (fun n c => 10 * n + digitValue c) n

theorem appendDigits_cons (n : Nat) (c : Char) (cs : List Char) :
    appendDigits n (c :: cs) = appendDigits (10 * n + digitValue c) cs := by
  rw [appendDigits, List.foldl_cons, appendDigits]

theorem appendDigits_append (n : Nat) (cs ds : List Char) :
    appendDigits n (cs ++ ds) = appendDigits (appendDigits n cs) ds := List.foldl_append

theorem le_appendDigits (n : Nat) (cs : List Char) : n * 10 ^ cs.length ≤ appendDigits n cs := by
  induction cs generalizing n with
  | nil => simp [appendDigits]
  | cons c cs ih =>
    rw [List.length_cons, Nat.pow_succ', appendDigits_cons, ← Nat.mul_assoc, Nat.mul_comm n]
    exact Nat.le_trans (Nat.mul_le_mul_right _ (Nat.le_add_right ..)) (ih _)

/-- The digits that were dropped only add to the number. -/
theorem gather_le (n : Nat) (cs : List Char) :
    (gather n cs).1 * 10 ^ (gather n cs).2.length ≤ appendDigits n cs ∧
      (gather n cs).2.length ≤ cs.length := by
  induction cs generalizing n with
  | nil => simp [gather, appendDigits]
  | cons c cs ih =>
    rw [gather]
    split
    · exact ⟨(ih _).1, Nat.le_trans (ih _).2 (Nat.le_succ _)⟩
    · exact ⟨le_appendDigits n (c :: cs), Nat.le_refl _⟩

theorem digitValue_lt {c : Char} (digit : c.isDigit = true) : digitValue c < 10 := by
  have upper : c.toNat ≤ '9'.toNat := by
    simp only [Char.isDigit, Bool.and_eq_true, decide_eq_true_eq] at digit
    exact digit.2
  have zero : '0'.toNat = 48 := rfl
  have nine : '9'.toNat = 57 := rfl
  unfold digitValue
  omega

/-- As many digits as 64 bits hold in any case are all gathered. -/
theorem gather_short {n : Nat} {cs : List Char} (digits : ∀ c ∈ cs, c.isDigit = true)
    (room : (n + 1) * 10 ^ cs.length ≤ UInt64.size) : gather n cs = (appendDigits n cs, []) := by
  induction cs generalizing n with
  | nil => rfl
  | cons c cs ih =>
    rw [List.forall_mem_cons] at digits
    have digit := digitValue_lt digits.1
    have next : (10 * n + digitValue c + 1) * 10 ^ cs.length ≤ UInt64.size := by
      rw [List.length_cons, Nat.pow_succ', ← Nat.mul_assoc] at room
      exact Nat.le_trans (Nat.mul_le_mul_right _ (by omega)) room
    have fits : 10 * n + digitValue c < UInt64.size :=
      Nat.lt_of_lt_of_le (Nat.lt_succ_self _)
        (Nat.le_trans (Nat.le_mul_of_pos_right _ (Nat.pow_pos (by decide))) next)
    rw [gather, if_pos fits, ih digits.2 next, appendDigits_cons]

/-- What the numeral stands for. -/
def decimal (n : Numeral) : Decimal :=
  ⟨natOfDigits (n.whole ++ n.fraction), n.exponent.getD 0 - n.fraction.length⟩

/-- The whole part has no more digits than 64 bits hold. -/
structure Short (n : Numeral) : Prop where
  digits : ∀ c ∈ n.whole, c.isDigit = true
  length : n.whole.length ≤ 19

/-- The gathered digits stand for no more than the numeral. -/
theorem value_gathered_le {n : Numeral} (short : n.Short) : n.gathered.value ≤ n.decimal.value := by
  have room : (0 + 1) * 10 ^ n.whole.length ≤ UInt64.size := by
    rw [Nat.zero_add, Nat.one_mul]
    exact Nat.le_trans (Nat.pow_le_pow_right (by decide) short.length) (by decide)
  have whole := gather_short short.digits room
  obtain ⟨least, fewer⟩ := gather_le (appendDigits 0 n.whole) n.fraction
  have all : natOfDigits (n.whole ++ n.fraction) =
      appendDigits (appendDigits 0 n.whole) n.fraction := appendDigits_append ..
  simp only [gathered, whole, decimal, all, value, List.length_nil]
  generalize gather (appendDigits 0 n.whole) n.fraction = gathered at *
  obtain ⟨digits, unread⟩ := gathered
  simp only at least fewer
  have place : ((0 : Nat) : Int) - (n.fraction.length - unread.length : Nat) + n.exponent.getD 0 =
      (unread.length : Int) + (n.exponent.getD 0 - n.fraction.length) := by omega
  have power : (0 : ℚ) ≤ 10 ^ (n.exponent.getD 0 - (n.fraction.length : Int)) :=
    zpow_nonneg (by norm_num) _
  rw [place, zpow_add₀ (by norm_num), zpow_natCast, ← mul_assoc]
  refine mul_le_mul_of_nonneg_right ?_ power
  exact_mod_cast least

theorem isSome_scale?_of_neg {x : Binary64} {exponent : Int} (negative : exponent < 0) :
    (scale? x exponent).isSome = true := by
  fun_induction scale? x exponent with
  | case1 => rfl
  | case2 => simp only [largestPower] at *; omega
  | case3 => rfl
  | case4 => omega
  | case5 => rfl
  | case6 _ _ _ _ _ _ ih => exact ih (by simp only [largestPower] at *; omega)

theorem isFinite_mul_powerOfTen : ∀ e < 309,
    (Binary64.ofNat (min (UInt64.size - 1) (topMiddle / 10 ^ e)) * powerOfTen e).isFinite =
      true := by
  decide +kernel

theorem topMiddle_lt : topMiddle < 10 ^ (largestPower + 1) := by decide +kernel

theorem isSome_scale? {digits e : Nat} (bound : digits < UInt64.size)
    (small : digits * 10 ^ e ≤ topMiddle) : (scale? (.ofNat digits) e).isSome = true := by
  by_cases zero : (Binary64.ofNat digits).magnitude = 0
  · rw [scale?, if_pos zero]
    rfl
  have some_digits : 0 < digits := by
    refine Nat.pos_of_ne_zero ?_
    rintro rfl
    exact zero rfl
  have power : e < 309 := by
    refine Nat.lt_of_not_le fun large => ?_
    have least : 10 ^ (largestPower + 1) ≤ digits * 10 ^ e :=
      Nat.le_trans (Nat.pow_le_pow_right (by decide) large) (Nat.le_mul_of_pos_left _ some_digits)
    exact absurd topMiddle_lt (Nat.not_lt_of_le (Nat.le_trans least small))
  have most : digits ≤ min (UInt64.size - 1) (topMiddle / 10 ^ e) :=
    Nat.le_min.mpr ⟨Nat.le_sub_one_of_lt bound,
      (Nat.le_div_iff_mul_le (Nat.pow_pos (by decide))).mpr small⟩
  have within (k : Nat) (le : k ≤ UInt64.size - 1) : (Binary64.ofNat k).isFinite = true :=
    Binary64.isFinite_of_le (Binary64.magnitude_ofNat_le (k := 64) (by decide)
      (Nat.le_trans le (by decide))) (by decide)
  have divisor := isDivisor_powerOfTen (Nat.le_of_lt_succ power)
  have product := Binary64.magnitude_mul_mono (within _ (Nat.le_sub_one_of_lt bound))
    (within _ (Nat.min_le_left ..)) divisor.finite (Binary64.magnitude_ofNat_mono most)
  have extreme := of_decide_eq_true (isFinite_mul_powerOfTen e power)
  have finite : (Binary64.ofNat digits * powerOfTen e).isFinite = true :=
    decide_eq_true (Nat.lt_of_le_of_lt product extreme)
  have exponent : ¬ (largestPower : Int) < e := by
    simp only [largestPower]
    omega
  rw [scale?, if_neg zero, if_neg exponent, if_pos (Int.natCast_nonneg e), Int.toNat_natCast,
    if_pos finite]
  rfl

theorem isSome_toBinary64? {n : Numeral}
    (small : ∀ k : Nat, (k : ℚ) ≤ n.gathered.value → k ≤ topMiddle) :
    n.toBinary64?.isSome = true := by
  have bound : n.gathered.digits < UInt64.size := gather_lt (gather_lt (by decide) _) _
  rw [toBinary64?]
  generalize n.gathered = d at *
  by_cases negative : d.exponent < 0
  · exact isSome_scale?_of_neg negative
  · obtain ⟨e, up⟩ := Int.eq_ofNat_of_zero_le (Int.not_lt.mp negative)
    rw [up]
    refine isSome_scale? bound (small _ ?_)
    rw [value, up]
    push_cast
    simp

end ReadoutControl.Json.Numeral
