import ReadoutControl.Payload.CardReader
import ReadoutControl.Proofs.Json.Reading
import ReadoutControl.Proofs.Json.Within

set_option autoImplicit false

/-!
The forms of numbers. Where a floating-point number is expected an integer takes the form of one,
and a replay rate is an integer only where it is the digit zero, which switches the replay off.
-/

namespace ReadoutControl

open Json Json.Node

/-- What a number is written as where it is read as a floating-point number. -/
def Json.Node.floatForm? : Node → Option Json
  | .int n => some (.float (.ofInt n))
  | .float x => some (.float x)
  | _ => none

/-- What a replay rate is written as. Only the integer zero stays an integer. -/
def Json.Node.rateForm? : Node → Option Json
  | .int 0 => some (.int 0)
  | node => node.floatForm?

namespace Json

/-- An integer that is zero is written as a single digit. -/
theorem Numeral.eq_zero_of_ofText? {cs : List Char} {n : Numeral}
    (read : Numeral.ofText? cs = some n) (whole : n.isInteger = true)
    (zero : Decimal.natOfDigits n.whole = 0) : cs = ['0'] := by
  simp only [Numeral.ofText?] at read
  obtain ⟨sound, read⟩ := Option.ite_none_left_eq_some.mp read
  have parts : cs.takeWhile Char.isDigit ++ cs.dropWhile Char.isDigit = cs :=
    List.takeWhile_append_dropWhile
  have digits : n.whole = cs.takeWhile Char.isDigit := by
    split at read
    all_goals
      obtain ⟨_, read⟩ := Option.ite_none_left_eq_some.mp read
      obtain ⟨_, _, rfl⟩ := Option.map_eq_some_iff.mp read
      rfl
  have nothing : cs.dropWhile Char.isDigit = [] := by
    split at read
    · -- A point needs digits behind it, and then the numeral is no integer.
      obtain ⟨pointed, read⟩ := Option.ite_none_left_eq_some.mp read
      obtain ⟨_, _, rfl⟩ := Option.map_eq_some_iff.mp read
      simp_all [isInteger]
    · obtain ⟨_, read⟩ := Option.ite_none_left_eq_some.mp read
      obtain ⟨_, _, rfl⟩ := Option.map_eq_some_iff.mp read
      simpa [isInteger] using whole
  rw [nothing, List.append_nil] at parts
  rw [digits, parts] at zero
  rw [parts] at sound
  cases cs with
  | nil => simp at sound
  | cons c rest =>
    have digits : (c :: rest).all Char.isDigit = true := parts ▸ List.all_takeWhile
    have digit : c.isDigit = true := List.all_eq_true.mp digits c List.mem_cons_self
    obtain rfl := Decimal.eq_zero_of_digitValue digit
      (Nat.le_zero.mp (zero ▸ Decimal.digitValue_le_natOfDigits c rest))
    simpa using sound

/-- Of all numerals only the digit zero is read as the integer zero. -/
theorem number?_eq_zero_iff {cs : List Char} : number? cs = some (.int 0) ↔ cs = ['0'] := by
  constructor
  · intro read
    unfold number? at read
    split at read
    next negative body signed =>
    obtain ⟨n, numeral, value⟩ := Option.map_eq_some_iff.mp read
    simp only at value
    split at value
    · next small =>
      simp only [Bool.and_eq_true, Bool.not_eq_true'] at small
      have zero : Decimal.natOfDigits n.whole = 0 := Int.ofNat_eq_zero.mp (Scalar.int.inj value)
      split at signed
      · obtain ⟨rfl, _⟩ := Prod.mk.inj signed
        exact absurd small.1.2 (by decide)
      · obtain ⟨_, rfl⟩ := Prod.mk.inj signed
        exact Numeral.eq_zero_of_ofText? numeral small.1.1 zero
    · split at value
      · next negated =>
        simp only [Bool.and_eq_true, decide_eq_true_eq] at negated
        have zero := Scalar.int.inj value
        omega
      · split at value <;> exact nomatch value
  · rintro rfl
    decide

/-- A numeral is an integer or a floating-point number, or has no value. -/
theorem number_of_number? {cs : List Char} {value : Scalar} (read : number? cs = some value)
    (readable : value ≠ .unreadable) : (∃ n, value = .int n) ∨ ∃ x, value = .float x := by
  unfold number? at read
  split at read
  next negative body _ =>
  obtain ⟨n, _, same⟩ := Option.map_eq_some_iff.mp read
  simp only at same
  split at same
  · exact .inl ⟨_, same.symm⟩
  · split at same
    · exact .inl ⟨_, same.symm⟩
    · split at same
      · exact .inr ⟨_, same.symm⟩
      · exact absurd same.symm readable

end Json

variable {node : Node} {depth : Nat}

theorem floatForm?_of_read? {x : Binary64} (within : node.Within depth)
    (read : node.float? = some x) : node.floatForm? = some (ofBinary64 x) := by
  have finite := within.float? read
  rw [ofBinary64, if_pos finite]
  cases node with
  | float y =>
    obtain rfl := Option.some.inj read
    rfl
  | int n =>
    obtain rfl := Option.some.inj read
    rfl
  | _ => exact nomatch read

namespace TpRate

theorem rateForm?_of_read? {rate : TpRate} (within : node.Within depth)
    (read : TpRate.read? node = some rate) : node.rateForm? = some rate.toJson := by
  unfold TpRate.read? at read
  split at read
  · obtain rfl := Option.some.inj read
    rfl
  · next active =>
    obtain ⟨x, number, rfl⟩ := Option.map_eq_some_iff.mp read
    rw [rateForm?, floatForm?_of_read? within number, toJson]
    exact active

theorem isFinite_of_read? {x : Binary64} (within : node.Within depth)
    (read : TpRate.read? node = some (.khz x)) : x.isFinite = true := by
  unfold TpRate.read? at read
  split at read
  · exact nomatch read
  · obtain ⟨y, number, same⟩ := Option.map_eq_some_iff.mp read
    obtain rfl := TpRate.khz.inj same
    exact within.float? number

/-- Only the integer zero switches the replay off. -/
theorem read?_eq_disabled_iff : TpRate.read? node = some .disabled ↔ node = .int 0 := by
  constructor
  · intro read
    unfold TpRate.read? at read
    split at read
    · rfl
    · obtain ⟨_, _, same⟩ := Option.map_eq_some_iff.mp read
      exact nomatch same
  · rintro rfl
    rfl

theorem exists_of_number {value : Scalar}
    (number : (∃ n, value = .int n) ∨ ∃ x, value = .float x) :
    ∃ rate, TpRate.read? (ofScalar value) = some rate := by
  rcases number with ⟨n, rfl⟩ | ⟨x, rfl⟩
  · simp only [ofScalar, TpRate.read?]
    split
    · exact ⟨_, rfl⟩
    · exact ⟨_, rfl⟩
  · exact ⟨_, rfl⟩

/-- Every numeral with a value is a rate, and for none but the digit zero the replay is off. -/
theorem ofText?_numeral {cs : List Char} {value : Scalar} (numeral : number? cs = some value)
    (readable : value ≠ .unreadable) :
    ∃ rate, (Node.ofText? cs).bind TpRate.read? = some rate ∧ (rate = .disabled ↔ cs = ['0']) := by
  obtain ⟨rate, read⟩ := exists_of_number (number_of_number? numeral readable)
  refine ⟨rate, by rw [ofText?_number numeral, Option.bind_some, read], ?_⟩
  have zero : ofScalar value = .int 0 ↔ value = .int 0 := by cases value <;> simp [ofScalar]
  rw [← number?_eq_zero_iff, numeral, Option.some.injEq, ← zero, ← read?_eq_disabled_iff, read,
    Option.some.injEq]

example : (Node.ofText? "-0".toList).bind TpRate.read? =
    some (.khz (.ofMagnitude true 0)) := by decide +kernel

end TpRate

end ReadoutControl
