import Mathlib.Tactic.Ring
import ReadoutControl.Proofs.Number.Rounding

set_option autoImplicit false

/-!
Rounding keeps the order of quotients, and the values of patterns grow with the patterns. Sums
aside, arithmetic on magnitudes is therefore monotone.
-/

namespace ReadoutControl.Binary64

/-- A quotient is rounded to at most `k` if it lies below the middle between `k` and `k + 1`, or in
the middle where `k` is the even neighbour. -/
theorem divRound_le_iff {num den k : Nat} (positive : 0 < den) :
    divRound num den ≤ k ↔
      2 * num < 2 * (den * k) + den ∨ 2 * num = 2 * (den * k) + den ∧ k % 2 = 0 := by
  have parts := Nat.div_add_mod num den
  have rest := Nat.mod_lt num positive
  simp only [divRound]
  generalize num / den = quotient at *
  generalize num % den = remainder at *
  subst parts
  rcases Nat.lt_trichotomy k quotient with below | rfl | above
  · obtain ⟨more, rfl⟩ : ∃ more, quotient = k + 1 + more := ⟨quotient - k - 1, by omega⟩
    have product : den * (k + 1 + more) = den * k + den + den * more := by ring
    have larger : ¬ (if 2 * remainder < den then k + 1 + more else if den < 2 * remainder then
        k + 1 + more + 1 else k + 1 + more + (k + 1 + more) % 2) ≤ k := by
      split
      · omega
      · split <;> omega
    omega
  · split
    · omega
    · split <;> omega
  · obtain ⟨more, rfl⟩ : ∃ more, k = quotient + 1 + more := ⟨k - quotient - 1, by omega⟩
    have product : den * (quotient + 1 + more) = den * quotient + den + den * more := by ring
    have smaller : (if 2 * remainder < den then quotient else if den < 2 * remainder then
        quotient + 1 else quotient + quotient % 2) ≤ quotient + 1 + more := by
      split
      · omega
      · split <;> omega
    omega

theorem divRound_mono {num den num' den' : Nat} (positive : 0 < den) (positive' : 0 < den')
    (le : num * den' ≤ num' * den) : divRound num den ≤ divRound num' den' := by
  rw [divRound_le_iff positive]
  have other := (divRound_le_iff positive').mp (Nat.le_refl (divRound num' den'))
  generalize divRound num' den' = k at *
  have scaled : 2 * num * den' ≤ 2 * num' * den := by
    rw [Nat.mul_assoc, Nat.mul_assoc]
    exact Nat.mul_le_mul_left 2 le
  have middle : (2 * (den' * k) + den') * den = (2 * (den * k) + den) * den' := by ring
  rcases other with below | ⟨equal, even⟩
  · left
    refine Nat.lt_of_mul_lt_mul_right (a := den') ?_
    rw [← middle]
    exact Nat.lt_of_le_of_lt scaled ((Nat.mul_lt_mul_right positive).mpr below)
  · rcases Nat.lt_or_eq_of_le scaled with less | same
    · left
      refine Nat.lt_of_mul_lt_mul_right (a := den') ?_
      rw [← middle, ← equal]
      exact less
    · right
      refine ⟨Nat.eq_of_mul_eq_mul_right positive' ?_, even⟩
      rw [← middle, ← equal]
      exact same

theorem le_divRound {num den bound : Nat} (positive : 0 < den) (large : bound * den ≤ num) :
    bound ≤ divRound num den := by
  have whole : divRound (bound * den) den = bound := by
    simp [divRound, Nat.mul_div_cancel _ positive, positive]
  rw [← whole]
  exact divRound_mono positive positive (Nat.mul_le_mul_right den large)

/-- Rounding keeps the order of quotients. -/
theorem roundRatio_mono {num den num' den' : Nat} (some_den : den ≠ 0) (some_den' : den' ≠ 0)
    (le : num * den' ≤ num' * den) : roundRatio num den ≤ roundRatio num' den' := by
  by_cases some_num : num = 0
  · simp [roundRatio, some_num]
  have positive := Nat.pos_of_ne_zero some_den
  have positive' := Nat.pos_of_ne_zero some_den'
  have some_num' : num' ≠ 0 := by
    rintro rfl
    have product := Nat.mul_pos (Nat.pos_of_ne_zero some_num) positive'
    omega
  obtain ⟨below, above⟩ := isPlace_placeIndex some_num some_den
  obtain ⟨below', above'⟩ := isPlace_placeIndex some_num' some_den'
  have scaled : scaleUp num * den' ≤ scaleUp num' * den := by
    rw [scaleUp, scaleUp, Nat.mul_right_comm, Nat.mul_right_comm num']
    exact Nat.mul_le_mul_right _ le
  rw [roundRatio_eq some_num, roundRatio_eq some_num']
  generalize placeIndex num den = p at *
  generalize placeIndex num' den' = q at *
  generalize scaleUp num = n at *
  generalize scaleUp num' = n' at *
  have unit : 0 < den * 2 ^ p := Nat.mul_pos positive (Nat.two_pow_pos p)
  have unit' : 0 < den' * 2 ^ q := Nat.mul_pos positive' (Nat.two_pow_pos q)
  suffices patterns : p * binadeSize + divRound n (den * 2 ^ p) ≤
      q * binadeSize + divRound n' (den' * 2 ^ q) from
    Nat.le_min.mpr ⟨Nat.le_trans (Nat.min_le_left ..) patterns, Nat.min_le_right ..⟩
  rcases Nat.lt_trichotomy p q with lower | rfl | higher
  · -- The greater quotient has a higher last place, hence a greater pattern whatever the digits.
    have digits : divRound n (den * 2 ^ p) ≤ 2 * binadeSize := by
      refine divRound_le (Nat.le_of_lt (Nat.lt_of_lt_of_eq below ?_)) unit
      rw [Nat.pow_add, binadeSize_eq]
      ring
    have digits' : binadeSize ≤ divRound n' (den' * 2 ^ q) := by
      refine le_divRound unit' (Nat.le_trans (Nat.le_of_eq ?_) (above'.resolve_left (by omega)))
      rw [Nat.pow_add, binadeSize_eq]
      ring
    have binades := Nat.mul_le_mul_right binadeSize (Nat.succ_le_of_lt lower)
    rw [Nat.succ_mul] at binades
    omega
  · refine Nat.add_le_add_left (divRound_mono unit unit' ?_) _
    rw [← Nat.mul_assoc, ← Nat.mul_assoc]
    exact Nat.mul_le_mul_right _ scaled
  · have high := above.resolve_left (by omega)
    have powers : 2 ^ (q + 53) ≤ 2 ^ (p + 52) := Nat.pow_le_pow_right (by decide) (by omega)
    refine absurd scaled (Nat.not_le_of_lt ?_)
    calc
      n' * den < den' * 2 ^ (q + 53) * den := (Nat.mul_lt_mul_right positive).mpr below'
      _ = den * 2 ^ (q + 53) * den' := by ring
      _ ≤ den * 2 ^ (p + 52) * den' := Nat.mul_le_mul_right _ (Nat.mul_le_mul_left _ powers)
      _ ≤ n * den' := Nat.mul_le_mul_right _ high

/-- The value of a pattern, counted in the least number. -/
def steps (magnitude : Nat) : Nat :=
  significandOf magnitude * 2 ^ (magnitude / binadeSize - 1)

theorem ratioOf_steps (magnitude : Nat) :
    (ratioOf magnitude).1 * unitScale = steps magnitude * (ratioOf magnitude).2 := by
  refine ratioOf_scaled ?_
  have power := leastPower_eq
  unfold exponentOf
  split
  · next subnormal =>
    rw [Nat.div_eq_of_lt subnormal]
    omega
  · next normal =>
    have binade : 0 < magnitude / binadeSize := Nat.div_pos (Nat.le_of_not_lt normal) (by decide)
    omega

/-- The patterns of the first two binades stand for their own number of steps. In each later one the
steps are twice as large as in the one before. -/
theorem steps_binade (binade : Nat) {digits : Nat} (small : digits < binadeSize) :
    steps (binadeSize * binade + digits) =
      (if binade = 0 then digits else digits + binadeSize) * 2 ^ (binade - 1) := by
  have size : 0 < binadeSize := by decide
  have quotient : (binadeSize * binade + digits) / binadeSize = binade := by
    rw [Nat.mul_add_div size, Nat.div_eq_of_lt small, Nat.add_zero]
  have remainder : (binadeSize * binade + digits) % binadeSize = digits := by
    rw [Nat.mul_add_mod, Nat.mod_eq_of_lt small]
  have first : binadeSize * binade + digits < binadeSize ↔ binade = 0 := by
    rw [← Nat.div_eq_zero_iff_lt size, quotient]
  by_cases zero : binade = 0
  · simp [steps, significandOf, zero, small, Nat.div_eq_of_lt small]
  · simp [steps, significandOf, quotient, remainder, first, zero]

theorem steps_lt_succ (magnitude : Nat) : steps magnitude < steps (magnitude + 1) := by
  have small := Nat.mod_lt magnitude (show 0 < binadeSize by decide)
  rw [← Nat.div_add_mod magnitude binadeSize]
  generalize magnitude / binadeSize = binade at *
  generalize magnitude % binadeSize = digits at *
  by_cases more : digits + 1 < binadeSize
  · rw [Nat.add_assoc, steps_binade binade small, steps_binade binade more]
    refine (Nat.mul_lt_mul_right (Nat.two_pow_pos _)).mpr ?_
    split <;> omega
  · have last : digits + 1 = binadeSize := by omega
    have next : binadeSize * binade + digits + 1 = binadeSize * (binade + 1) + 0 := by
      rw [Nat.add_assoc, last, Nat.mul_succ, Nat.add_zero]
    rw [next, steps_binade binade small, steps_binade (binade + 1) (by decide)]
    cases binade with
    | zero => simpa using small
    | succ b =>
      have twice : 2 ^ (b + 1) = 2 * 2 ^ b := Nat.pow_succ'
      simp only [Nat.succ_ne_zero, if_false, Nat.add_sub_cancel, Nat.zero_add, twice]
      rw [← Nat.mul_assoc]
      exact (Nat.mul_lt_mul_right (Nat.two_pow_pos b)).mpr (by omega)

theorem steps_mono {m n : Nat} (le : m ≤ n) : steps m ≤ steps n := by
  induction le with
  | refl => exact Nat.le_refl _
  | step _ ih => exact Nat.le_trans ih (Nat.le_of_lt (steps_lt_succ _))

/-- The values of patterns grow with the patterns. -/
theorem ratioOf_mono {m n : Nat} (le : m ≤ n) :
    (ratioOf m).1 * (ratioOf n).2 ≤ (ratioOf n).1 * (ratioOf m).2 := by
  refine Nat.le_of_mul_le_mul_right ?_ unitScale_pos
  calc
    (ratioOf m).1 * (ratioOf n).2 * unitScale = steps m * (ratioOf m).2 * (ratioOf n).2 := by
      rw [Nat.mul_right_comm, ratioOf_steps]
    _ ≤ steps n * (ratioOf m).2 * (ratioOf n).2 :=
      Nat.mul_le_mul_right _ (Nat.mul_le_mul_right _ (steps_mono le))
    _ = (ratioOf n).1 * (ratioOf m).2 * unitScale := by
      rw [Nat.mul_right_comm, ← ratioOf_steps, Nat.mul_right_comm]

theorem roundRatio_le_infinity (num den : Nat) : roundRatio num den ≤ infinityBits := by
  unfold roundRatio
  split
  · exact Nat.zero_le _
  · exact Nat.min_le_right ..

theorem magnitude_ofQuotient (negative : Bool) (a b : Nat × Nat) :
    (ofQuotient negative a b).magnitude = roundRatio (a.1 * b.2) (a.2 * b.1) :=
  magnitude_ofMagnitude negative
    (Nat.lt_of_le_of_lt (roundRatio_le_infinity ..) (by decide))

theorem magnitude_ofNat (n : Nat) : (ofNat n).magnitude = roundRatio n 1 :=
  magnitude_ofMagnitude false (Nat.lt_of_le_of_lt (roundRatio_le_infinity ..) (by decide))

theorem magnitude_ofNat_mono {m n : Nat} (le : m ≤ n) :
    (ofNat m).magnitude ≤ (ofNat n).magnitude := by
  rw [magnitude_ofNat, magnitude_ofNat]
  exact roundRatio_mono (by decide) (by decide) (Nat.mul_le_mul_right 1 le)

theorem isNaN_of_isFinite {x : Binary64} (finite : x.isFinite = true) : x.isNaN = false :=
  decide_eq_false (Nat.not_lt_of_gt (of_decide_eq_true finite))

theorem magnitude_mul {x y : Binary64} (finite : x.isFinite = true) (finite' : y.isFinite = true) :
    (x * y).magnitude = roundRatio ((ratioOf x.magnitude).1 * (ratioOf y.magnitude).1)
      ((ratioOf x.magnitude).2 * (ratioOf y.magnitude).2) := by
  have product : x * y = ofQuotient (x.isNegative != y.isNegative) (ratioOf x.magnitude)
      ((ratioOf y.magnitude).2, (ratioOf y.magnitude).1) := by
    change Binary64.mul x y = _
    simp [Binary64.mul, isNaN_of_isFinite, finite, finite']
  rw [product, magnitude_ofQuotient]

/-- A greater factor gives no smaller product. -/
theorem magnitude_mul_mono {x y z : Binary64} (finite : x.isFinite = true)
    (finite' : y.isFinite = true) (finiteFactor : z.isFinite = true)
    (le : x.magnitude ≤ y.magnitude) : (x * z).magnitude ≤ (y * z).magnitude := by
  rw [magnitude_mul finite finiteFactor, magnitude_mul finite' finiteFactor]
  have positive (m n : Nat) : (ratioOf m).2 * (ratioOf n).2 ≠ 0 :=
    Nat.ne_of_gt (Nat.mul_pos (ratioOf_pos m) (ratioOf_pos n))
  refine roundRatio_mono (positive _ _) (positive _ _) ?_
  have values := Nat.mul_le_mul_right ((ratioOf z.magnitude).1 * (ratioOf z.magnitude).2)
    (ratioOf_mono le)
  calc
    (ratioOf x.magnitude).1 * (ratioOf z.magnitude).1 *
        ((ratioOf y.magnitude).2 * (ratioOf z.magnitude).2) =
      (ratioOf x.magnitude).1 * (ratioOf y.magnitude).2 *
        ((ratioOf z.magnitude).1 * (ratioOf z.magnitude).2) := by ring
    _ ≤ (ratioOf y.magnitude).1 * (ratioOf x.magnitude).2 *
        ((ratioOf z.magnitude).1 * (ratioOf z.magnitude).2) := values
    _ = (ratioOf y.magnitude).1 * (ratioOf z.magnitude).1 *
        ((ratioOf x.magnitude).2 * (ratioOf z.magnitude).2) := by ring

end ReadoutControl.Binary64
