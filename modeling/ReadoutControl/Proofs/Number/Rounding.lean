import Mathlib.Algebra.Group.Nat.Defs
import ReadoutControl.Number.Binary64

set_option autoImplicit false

/-!
How large a rounded quotient can be. Rounding never leads past a power of two, so a quotient that is
at most a power of two is rounded to a pattern that is at most the pattern of that power, and the
value of such a pattern is at most that power again.
-/

namespace ReadoutControl.Binary64

theorem divRound_le {num den bound : Nat} (small : num ≤ bound * den) (positive : 0 < den) :
    divRound num den ≤ bound := by
  have parts := Nat.div_add_mod num den
  have quotient : num / den ≤ bound := Nat.div_le_of_le_mul (Nat.mul_comm .. ▸ small)
  by_cases exact : num / den = bound
  · have rest : num % den = 0 := by
      rw [exact, Nat.mul_comm] at parts
      omega
    simp only [divRound, rest, Nat.mul_zero, if_pos positive]
    exact quotient
  · have below : num / den + 1 ≤ bound := Nat.lt_of_le_of_ne quotient exact
    simp only [divRound]
    split
    · exact quotient
    · split
      · exact below
      · have odd := Nat.mod_lt (num / den) (y := 2) (by decide)
        omega

theorem divRound_mul_right (num den : Nat) {factor : Nat} (positive : 0 < factor) :
    divRound (num * factor) (den * factor) = divRound num den := by
  have twice (rest : Nat) : 2 * (rest * factor) = 2 * rest * factor := (Nat.mul_assoc ..).symm
  simp only [divRound, Nat.mul_div_mul_right _ _ positive, Nat.mul_mod_mul_right, twice,
    Nat.mul_lt_mul_right positive]

/-- The least number is one over two to this power. -/
def leastPower : Nat := 1074

theorem leastPower_eq : leastPower = 1074 := rfl

/-- How often the least number goes into one. -/
def unitScale : Nat := 2 ^ leastPower

theorem unitScale_pos : 0 < unitScale := Nat.two_pow_pos leastPower

theorem unitScale_eq {i j : Nat} (parts : i + j = leastPower) : unitScale = 2 ^ i * 2 ^ j := by
  rw [unitScale, ← parts, Nat.pow_add]

theorem pow_add_unit (i : Nat) : 2 ^ (i + leastPower) = 2 ^ i * unitScale := Nat.pow_add ..

theorem unitScale_le {i : Nat} (le : leastPower ≤ i) : unitScale ≤ 2 ^ i :=
  Nat.pow_le_pow_right (by decide) le

/-- How far the last place of a quotient lies above that of the least number. -/
def placeIndex (num den : Nat) : Nat := (lastPlace num den + leastPower).toNat

theorem lastPlace_eq (num den : Nat) : lastPlace num den = placeIndex num den - leastPower := by
  have least : -1074 ≤ lastPlace num den := Int.le_max_right ..
  have power := leastPower_eq
  unfold placeIndex
  omega

/-- The numerator counted in the least number. -/
def scaleUp (num : Nat) : Nat := num * unitScale

theorem roundRatio_eq {num : Nat} (some_num : num ≠ 0) (den : Nat) :
    roundRatio num den = min (placeIndex num den * binadeSize +
      divRound (scaleUp num) (den * 2 ^ placeIndex num den)) infinityBits := by
  have place := lastPlace_eq num den
  simp only [roundRatio, if_neg some_num, scaleUp]
  congr 2
  split
  · next e last =>
    have above : placeIndex num den = e + leastPower := by
      rw [last] at place
      simp only [Int.ofNat_eq_natCast] at place
      omega
    rw [above, pow_add_unit, ← Nat.mul_assoc, divRound_mul_right _ _ unitScale_pos]
    rfl
  · next e last =>
    have below : (e + 1) + placeIndex num den = leastPower := by
      rw [last] at place
      omega
    rw [unitScale_eq below, ← Nat.mul_assoc, divRound_mul_right _ _ (Nat.two_pow_pos _)]
    rfl

/-- The last place is the one that leaves 53 binary digits, or less of them above the least
number. -/
structure IsPlace (num den place : Nat) : Prop where
  below : scaleUp num < den * 2 ^ (place + 53)
  above : place = 0 ∨ den * 2 ^ (place + 52) ≤ scaleUp num

section Place

variable {num den : Nat}

/-- Whether the quotient has 53 binary digits down to a place. -/
def reaches (num den : Nat) (place : Int) : Bool :=
  match place with
  | .ofNat e => decide (den * Nat.pow 2 e * binadeSize ≤ num)
  | .negSucc e => decide (den * binadeSize ≤ num * Nat.pow 2 (e + 1))

theorem binadeSize_eq : binadeSize = 2 ^ 52 := rfl

theorem reaches_iff {place : Int} {index : Nat} (above : place = index - leastPower) :
    reaches num den place = true ↔ den * 2 ^ (index + 52) ≤ scaleUp num := by
  unfold reaches scaleUp
  split
  · next e =>
    obtain rfl : index = e + leastPower := by
      simp only [Int.ofNat_eq_natCast] at above
      omega
    have parts : den * 2 ^ (e + leastPower + 52) = den * 2 ^ e * binadeSize * unitScale := by
      rw [Nat.add_right_comm, pow_add_unit, Nat.pow_add, binadeSize_eq]
      simp only [Nat.mul_assoc]
    rw [decide_eq_true_eq, parts, Nat.mul_le_mul_right_iff unitScale_pos]
    rfl
  · next e =>
    have parts : num * unitScale = num * 2 ^ (e + 1) * 2 ^ index := by
      rw [unitScale_eq (i := e + 1) (j := index) (by omega), Nat.mul_assoc]
    have other : den * 2 ^ (index + 52) = den * binadeSize * 2 ^ index := by
      rw [Nat.add_comm, Nat.pow_add, binadeSize_eq, Nat.mul_assoc]
    rw [decide_eq_true_eq, parts, other, Nat.mul_le_mul_right_iff (Nat.two_pow_pos index)]
    rfl

theorem lt_of_not_reaches {place : Int} (short : reaches num den place = false) {index : Nat}
    (above : place - 1 ≤ index - leastPower) : scaleUp num < den * 2 ^ (index + 53) := by
  have larger {i : Nat} (le : i ≤ index + 53) : den * 2 ^ i ≤ den * 2 ^ (index + 53) :=
    Nat.mul_le_mul_left den (Nat.pow_le_pow_right (by decide) le)
  have power := leastPower_eq
  by_cases least : -leastPower ≤ place
  · have exact : place = ((place + leastPower).toNat : Nat) - leastPower := by omega
    have below : ¬ den * 2 ^ ((place + leastPower).toNat + 52) ≤ scaleUp num := by
      rw [← reaches_iff exact, short]
      simp
    exact Nat.lt_of_lt_of_le (Nat.lt_of_not_le below) (larger (by omega))
  · obtain ⟨e, rfl⟩ : ∃ e, place = .negSucc e := ⟨(-place - 1).toNat, by omega⟩
    have below : num * 2 ^ (e + 1) < den * 2 ^ 52 :=
      Nat.lt_of_not_le (of_decide_eq_false short)
    have fewer : scaleUp num ≤ num * 2 ^ (e + 1) :=
      Nat.mul_le_mul_left num (unitScale_le (by omega))
    exact Nat.lt_of_le_of_lt fewer (Nat.lt_of_lt_of_le below (larger (by omega)))

theorem isPlace_placeIndex (some_num : num ≠ 0) (some_den : den ≠ 0) :
    IsPlace num den (placeIndex num den) := by
  have numLower := Nat.log2_self_le some_num
  have numUpper := Nat.lt_log2_self (n := num)
  have denLower := Nat.log2_self_le some_den
  have denUpper := Nat.lt_log2_self (n := den)
  have index : placeIndex num den =
      (max (if reaches num den (Nat.log2 num - Nat.log2 den - 52 : Int) then
        (Nat.log2 num - Nat.log2 den - 52 : Int) else Nat.log2 num - Nat.log2 den - 52 - 1)
          (-1074) + leastPower).toNat := rfl
  have power := leastPower_eq
  generalize Nat.log2 num = a at *
  generalize Nat.log2 den = b at *
  generalize placeIndex num den = p at *
  cases reached : reaches num den (a - b - 52 : Int) with
  | true =>
    rw [if_pos reached] at index
    refine ⟨?_, ?_⟩
    · calc
        scaleUp num < 2 ^ (a + 1) * unitScale := (Nat.mul_lt_mul_right unitScale_pos).mpr numUpper
        _ = 2 ^ (a + 1 + leastPower) := (pow_add_unit _).symm
        _ ≤ 2 ^ (b + (p + 53)) := Nat.pow_le_pow_right (by decide) (by omega)
        _ = 2 ^ b * 2 ^ (p + 53) := Nat.pow_add ..
        _ ≤ den * 2 ^ (p + 53) := Nat.mul_le_mul_right _ denLower
    · by_cases least : p = 0
      · exact .inl least
      · exact .inr ((reaches_iff (by omega)).mp reached)
  | false =>
    rw [if_neg (by simp [reached])] at index
    refine ⟨lt_of_not_reaches reached (by omega), ?_⟩
    by_cases least : p = 0
    · exact .inl least
    · refine .inr (Nat.le_of_lt ?_)
      calc
        den * 2 ^ (p + 52) < 2 ^ (b + 1) * 2 ^ (p + 52) :=
          (Nat.mul_lt_mul_right (Nat.two_pow_pos _)).mpr denUpper
        _ = 2 ^ (b + 1 + (p + 52)) := (Nat.pow_add ..).symm
        _ = 2 ^ (a + leastPower) := congrArg (2 ^ ·) (by omega)
        _ = 2 ^ a * unitScale := pow_add_unit a
        _ ≤ scaleUp num := Nat.mul_le_mul_right _ numLower

/-- The pattern of a power of two. -/
def powerBits (k : Nat) : Nat := (k + 1023) * binadeSize

/-- A quotient that is at most a power of two is not rounded beyond it. -/
theorem roundRatio_le {k : Nat} (some_den : den ≠ 0) (small : num ≤ den * 2 ^ k) :
    roundRatio num den ≤ powerBits k := by
  by_cases some_num : num = 0
  · simp [roundRatio, some_num]
  have power := leastPower_eq
  have place := isPlace_placeIndex some_num some_den
  have positive : 0 < den * 2 ^ placeIndex num den :=
    Nat.mul_pos (Nat.pos_of_ne_zero some_den) (Nat.two_pow_pos _)
  rw [roundRatio_eq some_num, powerBits]
  refine Nat.le_trans (Nat.min_le_left ..) ?_
  generalize placeIndex num den = p at *
  by_cases low : p < k + 1022
  · have significand : divRound (scaleUp num) (den * 2 ^ p) ≤ 2 * binadeSize := by
      refine divRound_le (Nat.le_of_lt (Nat.lt_of_lt_of_eq place.below ?_)) positive
      rw [Nat.pow_add, binadeSize_eq, ← Nat.pow_succ', ← Nat.mul_assoc, Nat.mul_comm]
    have binades := Nat.mul_le_mul_right binadeSize (show p + 2 ≤ k + 1023 by omega)
    rw [Nat.add_mul] at binades
    omega
  · have scaled : scaleUp num ≤ den * 2 ^ (k + leastPower) := by
      rw [pow_add_unit, ← Nat.mul_assoc]
      exact Nat.mul_le_mul_right _ small
    have above := place.above.resolve_left (by omega)
    have powers : 2 ^ (p + 52) ≤ 2 ^ (k + leastPower) :=
      Nat.le_of_mul_le_mul_left (Nat.le_trans above scaled) (Nat.pos_of_ne_zero some_den)
    have high := (Nat.pow_le_pow_iff_right (by decide)).mp powers
    obtain rfl : p = k + 1022 := by omega
    have significand : divRound (scaleUp num) (den * 2 ^ (k + 1022)) ≤ binadeSize := by
      refine divRound_le (Nat.le_trans scaled (Nat.le_of_eq ?_)) positive
      have places : k + leastPower = 52 + (k + 1022) := by omega
      rw [places, Nat.pow_add, binadeSize_eq, Nat.mul_left_comm]
    have binades : (k + 1023) * binadeSize = (k + 1022) * binadeSize + binadeSize :=
      Nat.succ_mul ..
    omega

end Place

/-- The value of a pattern, counted in the least number. -/
theorem ratioOf_scaled {magnitude place : Nat}
    (exponent : exponentOf magnitude = place - leastPower) :
    (ratioOf magnitude).1 * unitScale =
      significandOf magnitude * 2 ^ place * (ratioOf magnitude).2 := by
  have power := leastPower_eq
  unfold ratioOf
  split
  · next e up =>
    obtain rfl : place = e + leastPower := by
      rw [up] at exponent
      simp only [Int.ofNat_eq_natCast] at exponent
      omega
    rw [pow_add_unit, Nat.mul_one, ← Nat.mul_assoc]
    rfl
  · next e down =>
    have parts : place + (e + 1) = leastPower := by
      rw [down] at exponent
      omega
    rw [unitScale_eq parts, ← Nat.mul_assoc]
    rfl

theorem ratioOf_pos (magnitude : Nat) : 0 < (ratioOf magnitude).2 := by
  unfold ratioOf
  split
  · exact Nat.one_pos
  · exact Nat.two_pow_pos _

/-- The value of a pattern that is at most that of a power of two is at most the power. -/
theorem ratioOf_le {magnitude k : Nat} (small : magnitude ≤ powerBits k) :
    (ratioOf magnitude).1 ≤ (ratioOf magnitude).2 * 2 ^ k := by
  have power := leastPower_eq
  have enough (place : Nat) (exponent : exponentOf magnitude = place - leastPower)
      (value : significandOf magnitude * 2 ^ place ≤ 2 ^ (k + leastPower)) :
      (ratioOf magnitude).1 ≤ (ratioOf magnitude).2 * 2 ^ k := by
    refine Nat.le_of_mul_le_mul_right ?_ unitScale_pos
    rw [ratioOf_scaled exponent, Nat.mul_comm, Nat.mul_assoc _ (2 ^ k), ← pow_add_unit]
    exact Nat.mul_le_mul_left _ value
  have product {significand i j : Nat} (digits : significand ≤ 2 ^ i) (le : i + j ≤ k + leastPower) :
      significand * 2 ^ j ≤ 2 ^ (k + leastPower) :=
    calc
      significand * 2 ^ j ≤ 2 ^ i * 2 ^ j := Nat.mul_le_mul_right _ digits
      _ = 2 ^ (i + j) := (Nat.pow_add ..).symm
      _ ≤ 2 ^ (k + leastPower) := Nat.pow_le_pow_right (by decide) le
  have size : binadeSize = 2 ^ 52 := rfl
  by_cases subnormal : magnitude < binadeSize
  · refine enough 0 (by simp [exponentOf, subnormal, power]) ?_
    rw [significandOf, if_pos subnormal]
    exact product (i := 52) (Nat.le_of_lt subnormal) (by omega)
  · have parts := Nat.div_add_mod' magnitude binadeSize
    have rest := Nat.mod_lt magnitude (show 0 < binadeSize by decide)
    have binade : 0 < magnitude / binadeSize :=
      Nat.div_pos (Nat.le_of_not_lt subnormal) (by decide)
    refine enough (magnitude / binadeSize - 1) ?_ ?_
    · simp only [exponentOf, if_neg subnormal]
      omega
    · rw [significandOf, if_neg subnormal]
      by_cases low : magnitude / binadeSize ≤ k + 1022
      · exact product (i := 53) (by omega) (by omega)
      · have least : (k + 1023) * binadeSize ≤ magnitude / binadeSize * binadeSize :=
          Nat.mul_le_mul_right _ (by omega)
        have exact : magnitude / binadeSize ≤ k + 1023 :=
          Nat.le_trans (Nat.div_le_div_right small) (Nat.le_of_eq (Nat.mul_div_left _ (by decide)))
        rw [powerBits] at small
        exact product (i := 52) (by omega) (by omega)

theorem magnitude_ofMagnitude (negative : Bool) {magnitude : Nat} (small : magnitude < signBit) :
    (ofMagnitude negative magnitude).magnitude = magnitude := by
  have bits : magnitude + (if negative then signBit else 0) < UInt64.size := by
    simp only [signBit, UInt64.size] at *
    split <;> omega
  rw [Binary64.magnitude, ofMagnitude, UInt64.toNat_ofNat_of_lt' bits]
  cases negative <;> simp [Nat.mod_eq_of_lt small]

theorem powerBits_lt {k : Nat} (small : k < 1024) : powerBits k < infinityBits :=
  (Nat.mul_lt_mul_right (by decide)).mpr (by omega)

/-- What is at most a power of two is finite, if the power is. -/
theorem isFinite_of_le {x : Binary64} {k : Nat} (le : x.magnitude ≤ powerBits k) (small : k < 1024) :
    x.isFinite = true :=
  decide_eq_true (Nat.lt_of_le_of_lt le (powerBits_lt small))

theorem magnitude_ofQuotient_le (negative : Bool) {a b : Nat × Nat} {k : Nat} (small : k < 1024)
    (positive : a.2 * b.1 ≠ 0) (le : a.1 * b.2 ≤ a.2 * b.1 * 2 ^ k) :
    (ofQuotient negative a b).magnitude ≤ powerBits k := by
  have rounded := roundRatio_le positive le
  have finite : powerBits k < signBit :=
    Nat.lt_trans (powerBits_lt small) (by decide)
  rw [ofQuotient, magnitude_ofMagnitude _ (Nat.lt_of_le_of_lt rounded finite)]
  exact rounded

theorem magnitude_ofNat_le {n k : Nat} (small : k < 1024) (le : n ≤ 2 ^ k) :
    (ofNat n).magnitude ≤ powerBits k := by
  have quotient : ofNat n = ofQuotient false (n, 1) (1, 1) := by simp [ofNat, ofQuotient]
  rw [quotient]
  exact magnitude_ofQuotient_le false small (by simp) (by simpa using le)

theorem magnitude_ofInt_le {n : Int} {k : Nat} (small : k < 1024) (le : n.natAbs ≤ 2 ^ k) :
    (ofInt n).magnitude ≤ powerBits k := by
  have quotient : ofInt n = ofQuotient (n < 0) (n.natAbs, 1) (1, 1) := by simp [ofInt, ofQuotient]
  rw [quotient]
  exact magnitude_ofQuotient_le _ small (by simp) (by simpa using le)

/-- A finite number that is one or more, up to its sign. -/
structure IsDivisor (y : Binary64) : Prop where
  finite : y.isFinite = true
  nonzero : y.magnitude ≠ 0
  large : (ratioOf y.magnitude).2 ≤ (ratioOf y.magnitude).1

/-- Division by one or more leads past no power of two. -/
theorem magnitude_div_le {x y : Binary64} {k : Nat} (small : k < 1024)
    (le : x.magnitude ≤ powerBits k) (divisor : y.IsDivisor) :
    (x / y).magnitude ≤ powerBits k := by
  have finite := isFinite_of_le le small
  have number {z : Binary64} (finite : z.isFinite = true) : z.isNaN = false :=
    decide_eq_false (Nat.not_lt_of_gt (of_decide_eq_true finite))
  have quotient : x / y = ofQuotient (x.isNegative != y.isNegative) (ratioOf x.magnitude)
      (ratioOf y.magnitude) := by
    change Binary64.div x y = _
    simp [Binary64.div, number finite, number divisor.finite, finite, divisor.finite,
      divisor.nonzero]
  have value := ratioOf_le le
  have large := divisor.large
  have positive := ratioOf_pos x.magnitude
  have positiveDivisor := Nat.lt_of_lt_of_le (ratioOf_pos y.magnitude) large
  rw [quotient]
  refine magnitude_ofQuotient_le _ small (Nat.ne_of_gt (Nat.mul_pos positive positiveDivisor)) ?_
  calc
    (ratioOf x.magnitude).1 * (ratioOf y.magnitude).2 ≤
        (ratioOf x.magnitude).2 * 2 ^ k * (ratioOf y.magnitude).1 := Nat.mul_le_mul value large
    _ = (ratioOf x.magnitude).2 * (ratioOf y.magnitude).1 * 2 ^ k := Nat.mul_right_comm ..

end ReadoutControl.Binary64
