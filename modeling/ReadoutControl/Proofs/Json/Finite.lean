import Mathlib.Algebra.Group.Nat.Defs
import ReadoutControl.Json.Token
import ReadoutControl.Proofs.Number.Rounding

set_option autoImplicit false

/-!
A numeral that is read as a number is read as a finite one. Only scaling up can lead beyond all finite
numbers, and what is beyond them then is not read.
-/

namespace ReadoutControl.Json

namespace Numeral

theorem isDivisor_powerOfTen {n : Nat} (small : n ≤ largestPower) : (powerOfTen n).IsDivisor := by
  have each : ∀ n < 309, (powerOfTen n).isFinite = true ∧ (powerOfTen n).magnitude ≠ 0 ∧
      (Binary64.ratioOf (powerOfTen n).magnitude).2 ≤
        (Binary64.ratioOf (powerOfTen n).magnitude).1 := by decide +kernel
  obtain ⟨finite, nonzero, large⟩ := each n (Nat.lt_succ_of_le small)
  exact ⟨finite, nonzero, large⟩

/-- What 64 bits hold stays within a power of two when it is scaled down. -/
theorem isFinite_of_scale? {x y : Binary64} {exponent : Int}
    (le : x.magnitude ≤ Binary64.powerBits 64) (scaled : scale? x exponent = some y) :
    y.isFinite = true := by
  have finite : x.isFinite = true := Binary64.isFinite_of_le le (by decide)
  fun_induction scale? x exponent with
  | case1 =>
    obtain rfl := Option.some.inj scaled
    exact finite
  | case2 => exact nomatch scaled
  | case3 x exponent _ _ _ product reached =>
    obtain rfl := Option.some.inj scaled
    exact reached
  | case4 => exact nomatch scaled
  | case5 x exponent _ _ _ inside =>
    obtain rfl := Option.some.inj scaled
    have small : (-exponent).toNat ≤ largestPower := by
      simp only [largestPower] at *
      omega
    exact Binary64.isFinite_of_le
      (Binary64.magnitude_div_le (by decide) le (isDivisor_powerOfTen small)) (by decide)
  | case6 x exponent _ _ _ _ ih =>
    have lower := Binary64.magnitude_div_le (by decide) le
      (isDivisor_powerOfTen (Nat.le_refl largestPower))
    exact ih lower scaled (Binary64.isFinite_of_le lower (by decide))

theorem gather_lt {n : Nat} (small : n < UInt64.size) (cs : List Char) :
    (gather n cs).1 < UInt64.size := by
  induction cs generalizing n with
  | nil => exact small
  | cons c rest ih =>
    rw [gather]
    split
    · next room => exact ih room
    · exact small

theorem isFinite_of_toBinary64? {n : Numeral} {x : Binary64} (read : n.toBinary64? = some x) :
    x.isFinite = true := by
  have small : n.gathered.digits < UInt64.size := gather_lt (gather_lt (by decide) _) _
  exact isFinite_of_scale? (Binary64.magnitude_ofNat_le (by decide) (Nat.le_of_lt small)) read

end Numeral

theorem isFinite_of_number? {cs : List Char} {x : Binary64} (read : number? cs = some (.float x)) :
    x.isFinite = true := by
  unfold number? at read
  split at read
  next negative body _ =>
  obtain ⟨n, _, value⟩ := Option.map_eq_some_iff.mp read
  simp only at value
  split at value
  · exact nomatch value
  · split at value
    · exact nomatch value
    · split at value
      · next y scaled =>
        obtain rfl := Scalar.float.inj value
        have finite := Numeral.isFinite_of_toBinary64? scaled
        have small : y.magnitude < Binary64.infinityBits := of_decide_eq_true finite
        rw [Binary64.isFinite, Binary64.magnitude_ofMagnitude _ (Nat.lt_trans small (by decide))]
        exact decide_eq_true small
      · exact nomatch value

end ReadoutControl.Json
