import Mathlib.Algebra.Order.Field.Basic
import Mathlib.Data.Rat.Cast.Order
import Mathlib.Tactic.FieldSimp
import Mathlib.Tactic.Linarith
import Mathlib.Tactic.NormNum
import ReadoutControl.Number.Decimal
import ReadoutControl.Proofs.Number.Order

set_option autoImplicit false

/-!
The value of the numeral that is chosen for a number. It lies nearer to the number than to any other,
so for all but the largest finite number it stays below the middle of the two largest ones.
-/

namespace ReadoutControl.Decimal

open Binary64 (ratioOf roundRatio infinityBits)

def value (d : Decimal) : ℚ := d.digits * 10 ^ d.exponent

theorem ratio_pos (d : Decimal) : 0 < d.ratio.2 := by
  unfold ratio
  split
  · exact Nat.one_pos
  · exact Nat.pow_pos (by decide)

theorem value_eq_ratio (d : Decimal) : d.value = d.ratio.1 / d.ratio.2 := by
  unfold value ratio
  split
  · next e up =>
    rw [up]
    simp [Nat.cast_mul]
  · next e down =>
    rw [down, zpow_negSucc, ← div_eq_mul_inv]
    simp

theorem value_stripZeros (d : Decimal) : d.stripZeros.value = d.value := by
  induction d using stripZeros.induct with
  | case1 d stop => rw [stripZeros, dif_pos stop]
  | case2 d more ih =>
    have whole : d.digits = 10 * (d.digits / 10) := by omega
    rw [stripZeros, dif_neg more, ih, value, value]
    conv_rhs => rw [whole]
    rw [zpow_add_one₀ (by norm_num)]
    push_cast
    ring

theorem value_exact (magnitude : Nat) :
    (exact magnitude).value = (ratioOf magnitude).1 / (ratioOf magnitude).2 := by
  cases exponent : Binary64.exponentOf magnitude with
  | ofNat e => simp [exact, ratioOf, value, exponent]
  | negSucc e =>
    have ten : (10 : ℚ) = 2 * 5 := by norm_num
    have place : (-(e + 1) : Int) = -((e + 1 : Nat) : Int) := by simp
    simp only [exact, ratioOf, value, exponent, place, zpow_neg, zpow_natCast, ten, mul_pow,
      Nat.pow_eq]
    push_cast
    field_simp

theorem roundMagnitude_of_readingBackAt? {tie : Tie} {magnitude : Nat} {place : Int} {d : Decimal}
    (found : readingBackAt? tie magnitude place = some d) : d.roundMagnitude = magnitude := by
  simp only [readingBackAt?] at found
  split at found
  · cases found
  · next down _ =>
    obtain rfl := Option.some.inj found
    exact eq_of_beq down
  · next _ up =>
    obtain rfl := Option.some.inj found
    exact eq_of_beq up
  · next down up =>
    have both : d.roundMagnitude = magnitude := by
      split at found
      · obtain rfl := Option.some.inj found
        exact eq_of_beq down
      · split at found
        · obtain rfl := Option.some.inj found
          exact eq_of_beq up
        · split at found
          · obtain rfl := Option.some.inj found
            exact eq_of_beq up
          · obtain rfl := Option.some.inj found
            split
            · exact eq_of_beq down
            · exact eq_of_beq up
    exact both

/-- The numeral that is chosen reads back, or has the exact value. -/
theorem shortest_cases (tie : Tie) (magnitude : Nat) :
    ∃ d : Decimal, (shortest tie magnitude).value = d.value ∧
      (d.roundMagnitude = magnitude ∨ d = exact magnitude) := by
  simp only [shortest]
  split
  · next d found =>
    obtain ⟨n, _, reading⟩ := List.exists_of_findSome?_eq_some found
    exact ⟨d, value_stripZeros d, .inl (roundMagnitude_of_readingBackAt? reading)⟩
  · exact ⟨_, value_stripZeros _, .inr rfl⟩

/-- The largest finite pattern. -/
def largest : Nat := infinityBits - 1

theorem le_ratio_iff {d : Decimal} {n : Nat} : (n : ℚ) ≤ d.value ↔ n * d.ratio.2 ≤ d.ratio.1 := by
  have positive : (0 : ℚ) < d.ratio.2 := Nat.cast_pos.mpr d.ratio_pos
  rw [value_eq_ratio, le_div_iff₀ positive]
  exact_mod_cast Iff.rfl

section Top

variable {top n : Nat}

theorem le_of_roundMagnitude {d : Decimal} (next : roundRatio (top + 1) 1 = largest)
    (some_value : d.roundMagnitude ≠ 0) (below : d.roundMagnitude < largest)
    (le : (n : ℚ) ≤ d.value) : n ≤ top := by
  simp only [roundMagnitude] at some_value below
  split at below
  · simp_all
  · split at below
    · exact absurd below (by decide)
    · split at below
      · simp_all
      · by_contra above
        have beyond : top + 1 ≤ n := Nat.lt_of_not_le above
        have least : (top + 1) * d.ratio.2 ≤ d.ratio.1 * 1 := by
          rw [Nat.mul_one]
          exact Nat.le_trans (Nat.mul_le_mul_right d.ratio.2 beyond) (le_ratio_iff.mp le)
        have rounded := Binary64.roundRatio_mono Nat.one_ne_zero (Nat.ne_of_gt d.ratio_pos) least
        rw [next] at rounded
        exact absurd below (Nat.not_lt_of_le rounded)

theorem le_of_exact {magnitude : Nat} (whole : (ratioOf (largest - 1)).2 = 1)
    (small : (ratioOf (largest - 1)).1 ≤ top) (below : magnitude < largest)
    (le : (n : ℚ) ≤ (exact magnitude).value) : n ≤ top := by
  have positive : (0 : ℚ) < (ratioOf magnitude).2 := Nat.cast_pos.mpr (Binary64.ratioOf_pos _)
  rw [value_exact, le_div_iff₀ positive] at le
  have value : n * (ratioOf magnitude).2 ≤ (ratioOf magnitude).1 := by exact_mod_cast le
  have order := Binary64.ratioOf_mono (Nat.le_sub_one_of_lt below)
  rw [whole, Nat.mul_one] at order
  have least := Nat.le_of_mul_le_mul_right (Nat.le_trans value order) (Binary64.ratioOf_pos _)
  exact Nat.le_trans least small

end Top

/-- The middle of the two largest finite numbers. -/
def topMiddle : Nat := (2 ^ 54 - 3) * 2 ^ 970

theorem roundRatio_topMiddle : roundRatio (topMiddle + 1) 1 = largest := by decide +kernel

theorem ratioOf_belowLargest :
    (ratioOf (largest - 1)).2 = 1 ∧ (ratioOf (largest - 1)).1 ≤ topMiddle := by decide +kernel

/-- The whole numbers up to the numeral of a number that is not the largest are no greater than the
middle. -/
theorem le_topMiddle (tie : Tie) {magnitude n : Nat} (some_value : magnitude ≠ 0)
    (below : magnitude < largest) (le : (n : ℚ) ≤ (shortest tie magnitude).value) :
    n ≤ topMiddle := by
  obtain ⟨d, same, rounded | rfl⟩ := shortest_cases tie magnitude
  · subst rounded
    exact le_of_roundMagnitude roundRatio_topMiddle some_value below (same ▸ le)
  · exact le_of_exact ratioOf_belowLargest.1 ratioOf_belowLargest.2 below (same ▸ le)

theorem digits_shortest_pos (tie : Tie) {magnitude : Nat} (some_value : magnitude ≠ 0) :
    0 < (shortest tie magnitude).digits := by
  obtain ⟨d, same, outcome⟩ := shortest_cases tie magnitude
  have some_digits : d.digits ≠ 0 := by
    rcases outcome with rounded | rfl
    · intro zero
      exact some_value (by simpa [roundMagnitude, zero] using rounded.symm)
    · have significand : Binary64.significandOf magnitude ≠ 0 := by
        unfold Binary64.significandOf
        split
        · exact some_value
        · exact Nat.ne_of_gt (Nat.add_pos_right _ (by decide))
      unfold exact
      split
      · exact Nat.mul_ne_zero significand (Nat.ne_of_gt (Nat.pow_pos (by decide)))
      · exact Nat.mul_ne_zero significand (Nat.ne_of_gt (Nat.pow_pos (by decide)))
  refine Nat.pos_of_ne_zero fun zero => some_digits ?_
  have none : d.value = 0 := by rw [← same, value, zero, Nat.cast_zero, zero_mul]
  have power : (10 : ℚ) ^ d.exponent ≠ 0 := zpow_ne_zero _ (by norm_num)
  exact Nat.cast_eq_zero.mp ((mul_eq_zero.mp none).resolve_right power)

end ReadoutControl.Decimal
