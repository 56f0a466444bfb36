import ReadoutControl.Number.Decimal

set_option autoImplicit false

/-!
The decimal digits of a natural number: there is at least one, none stands in front without need,
and the number can be read off them.
-/

namespace ReadoutControl.Decimal

theorem isDigit_of_mem_digitChars {c : Char} {n : Nat} (h : c ∈ digitChars n) : c.isDigit = true :=
  Nat.isDigit_of_mem_toDigits (by decide) (by decide) h

theorem digitChars_ne_nil (n : Nat) : digitChars n ≠ [] := Nat.toDigits_ne_nil

theorem natOfDigits_digitChars (n : Nat) : natOfDigits (digitChars n) = n :=
  Nat.ofDigitChars_ten_toDigits

theorem digitChars_inj {i j : Nat} (h : digitChars i = digitChars j) : i = j := by
  rw [← natOfDigits_digitChars i, h, natOfDigits_digitChars]

theorem head?_digitChars {n : Nat} (positive : 0 < n) : (digitChars n).head? ≠ some '0' := by
  induction n using Nat.strongRecOn with
  | ind n ih =>
    by_cases small : n < 10
    · have leading : ∀ d < 10, 0 < d → Nat.digitChar d ≠ '0' := by decide
      simp [digitChars, Nat.toDigits_of_lt_base small, leading n small positive]
    · have split : digitChars n = digitChars (n / 10) ++ [Nat.digitChar (n % 10)] :=
        Nat.toDigits_of_base_le (by decide) (by omega)
      have earlier := ih (n / 10) (by omega) (by omega)
      rw [split, List.head?_append, List.head?_eq_some_head (digitChars_ne_nil (n / 10)),
        Option.some_or, ← List.head?_eq_some_head]
      exact earlier

/-- Only zero begins with a zero. -/
theorem length_digitChars_of_head? {n : Nat} (zero : (digitChars n).head? = some '0') :
    (digitChars n).length = 1 := by
  rcases Nat.eq_zero_or_pos n with rfl | positive
  · rfl
  · exact absurd zero (head?_digitChars positive)

/-- No number is less than its first digit. -/
theorem digitValue_le_natOfDigits (c : Char) (cs : List Char) :
    digitValue c ≤ natOfDigits (c :: cs) := by
  have grows (n : Nat) : n ≤ cs.foldl (fun n c => 10 * n + digitValue c) n := by
    induction cs generalizing n with
    | nil => exact Nat.le_refl n
    | cons d rest ih =>
      have step := ih (10 * n + digitValue d)
      rw [List.foldl_cons]
      omega
  rw [natOfDigits, List.foldl_cons, Nat.mul_zero, Nat.zero_add]
  exact grows (digitValue c)

theorem eq_zero_of_digitValue {c : Char} (digit : c.isDigit = true) (zero : digitValue c = 0) :
    c = '0' := by
  have least : 48 ≤ c.toNat := (Char.isDigit_iff_toNat.mp digit).1
  have value : c.toNat - 48 = 0 := zero
  have same : c.toNat = 48 := by omega
  exact Char.toNat_inj.mp same

end ReadoutControl.Decimal
