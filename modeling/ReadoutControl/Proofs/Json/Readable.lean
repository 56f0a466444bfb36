import ReadoutControl.Proofs.Json.Reread
import ReadoutControl.Proofs.Json.Scaling

set_option autoImplicit false

/-!
The text of every finite number is read as a number, if not always as the same one. A printed numeral
has few digits before its point, so it is read as no more than its value, and that leaves room for
the two steps of rounding.
-/

namespace ReadoutControl

namespace Json

open Decimal (digitChars natOfDigits)

section Parts

variable {whole fraction tail : List Char} {e : Int}

/-- Digits before a point: at least one, and no zero in front of others. -/
structure IsWhole (whole : List Char) : Prop where
  digits : ∀ c ∈ whole, c.isDigit = true
  some_digit : whole ≠ []
  leading : whole.head? = some '0' → whole.length = 1

/-- What follows the digits is read as the exponent and is no digit. -/
structure IsTail (tail : List Char) (e : Int) : Prop where
  exponent : Binary64.exponentOfText? tail = some e
  stop : ∀ c ∈ tail.head?, c.isDigit = false ∧ c ≠ '.'

theorem IsWhole.unrefused (sound : IsWhole whole) :
    (whole.isEmpty || (whole.head? = some '0' && 1 < whole.length)) = false := by
  have some_digit : whole.isEmpty = false := List.isEmpty_eq_false_iff.mpr sound.some_digit
  by_cases zero : whole.head? = some '0'
  · simp [some_digit, sound.leading zero]
  · simp [some_digit, zero]

theorem ofText?_whole (sound : IsWhole whole) (ends : IsTail tail e) :
    Numeral.ofText? (whole ++ tail) = some ⟨whole, [], if tail.isEmpty then none else some e⟩ := by
  have stop : ∀ c ∈ tail.head?, c.isDigit = false := fun c first => (ends.stop c first).1
  simp only [Numeral.ofText?, takeWhile_run sound.digits stop, dropWhile_run sound.digits stop,
    sound.unrefused]
  cases tail with
  | nil => simp [ends.exponent]
  | cons c more => simp [ends.exponent, (ends.stop c rfl).2]

theorem ofText?_pointed (sound : IsWhole whole) (digits : ∀ c ∈ fraction, c.isDigit = true)
    (some_digit : fraction ≠ []) (ends : IsTail tail e) :
    Numeral.ofText? (whole ++ '.' :: (fraction ++ tail)) =
      some ⟨whole, fraction, if tail.isEmpty then none else some e⟩ := by
  have stop : ∀ c ∈ tail.head?, c.isDigit = false := fun c first => (ends.stop c first).1
  have point : ∀ c ∈ ('.' :: (fraction ++ tail)).head?, c.isDigit = false := by
    rintro _ ⟨⟩
    decide
  simp only [Numeral.ofText?, takeWhile_run sound.digits point, dropWhile_run sound.digits point,
    sound.unrefused, takeWhile_run digits stop, dropWhile_run digits stop]
  simp [ends.exponent, some_digit]

theorem isTail_nil : IsTail [] 0 := ⟨rfl, by simp⟩

theorem isTail_exponent (e : Int) :
    IsTail ('e' :: (if e < 0 then '-' else '+') :: digitChars e.natAbs) e := by
  have digits : (digitChars e.natAbs).all Char.isDigit = true :=
    List.all_eq_true.mpr fun c member => Decimal.isDigit_of_mem_digitChars member
  have some_digit : (digitChars e.natAbs).isEmpty = false :=
    List.isEmpty_eq_false_iff.mpr (Decimal.digitChars_ne_nil _)
  refine ⟨?_, by simp⟩
  by_cases negative : e < 0
  · simp [Binary64.exponentOfText?, negative, digits, some_digit,
      Decimal.natOfDigits_digitChars, abs_of_neg negative]
  · simp [Binary64.exponentOfText?, negative, digits, some_digit,
      Decimal.natOfDigits_digitChars, abs_of_nonneg (Int.not_lt.mp negative)]

end Parts

theorem appendDigits_zeros (n k : Nat) :
    Numeral.appendDigits n (List.replicate k '0') = n * 10 ^ k := by
  induction k generalizing n with
  | zero => simp [Numeral.appendDigits]
  | succ k ih =>
    have zero : Decimal.digitValue '0' = 0 := rfl
    rw [List.replicate_succ, Numeral.appendDigits_cons, ih, zero, Nat.add_zero, Nat.pow_succ']
    ring

/-- The text is a numeral of that value, which is told from an integer. -/
structure Prints (text : List Char) (d : Decimal) (n : Numeral) : Prop where
  read : Numeral.ofText? text = some n
  pointed : n.isInteger = false
  short : n.Short
  value : n.decimal.value = d.value

section Layout

variable {d : Decimal} (positive : 0 < d.digits)

include positive

theorem isWhole_take {k : Nat} (some_digit : 0 < k) : IsWhole ((digitChars d.digits).take k) where
  digits c member := Decimal.isDigit_of_mem_digitChars (List.mem_of_mem_take member)
  some_digit := by simp [Decimal.digitChars_ne_nil, Nat.ne_of_gt some_digit]
  leading zero := by
    rw [List.head?_take, if_neg (Nat.ne_of_gt some_digit)] at zero
    exact absurd zero (Decimal.head?_digitChars positive)

theorem isWhole_append (tail : List Char) (digits : ∀ c ∈ tail, c.isDigit = true) :
    IsWhole (digitChars d.digits ++ tail) where
  digits := List.forall_mem_append.mpr
    ⟨fun c member => Decimal.isDigit_of_mem_digitChars member, digits⟩
  some_digit := by simp [Decimal.digitChars_ne_nil]
  leading zero := by
    rw [List.head?_append, List.head?_eq_some_head (Decimal.digitChars_ne_nil _), Option.some_or,
      ← List.head?_eq_some_head] at zero
    exact absurd zero (Decimal.head?_digitChars positive)

omit positive in
theorem isDigit_zeros (k : Nat) : ∀ c ∈ List.replicate k '0', c.isDigit = true := by
  intro c member
  rw [List.eq_of_mem_replicate member]
  rfl

omit positive in
theorem prints_pointed {whole fraction : List Char} (sound : IsWhole whole)
    (digits : ∀ c ∈ fraction, c.isDigit = true) (some_digit : fraction ≠ [])
    (few : whole.length ≤ 19)
    (value : (Numeral.decimal ⟨whole, fraction, none⟩).value = d.value) :
    Prints (whole ++ '.' :: fraction) d ⟨whole, fraction, none⟩ where
  read := by simpa using ofText?_pointed sound digits some_digit isTail_nil
  pointed := by simp [Numeral.isInteger, some_digit]
  short := ⟨sound.digits, few⟩
  value := value

theorem prints_plainText {point : Int} (place : point = (digitChars d.digits).length + d.exponent)
    (few : point ≤ 16) :
    ∃ n, Prints (DecimalLayout.plainText true (digitChars d.digits) point) d n := by
  have digits : ∀ c ∈ digitChars d.digits, c.isDigit = true :=
    fun c member => Decimal.isDigit_of_mem_digitChars member
  have all : Numeral.appendDigits 0 (digitChars d.digits) = d.digits :=
    Decimal.natOfDigits_digitChars d.digits
  have same {whole fraction : List Char} (number : natOfDigits (whole ++ fraction) = d.digits)
      (exponent : d.exponent = -fraction.length) :
      Numeral.decimal ⟨whole, fraction, none⟩ = d := by
    simp [Numeral.decimal, number, ← exponent]
  unfold DecimalLayout.plainText
  split
  · next small =>
    have zero : IsWhole ['0'] := ⟨by simp, by simp, fun _ => rfl⟩
    have fraction := List.forall_mem_append.mpr ⟨isDigit_zeros (-point).toNat, digits⟩
    refine ⟨_, prints_pointed zero fraction (by simp [Decimal.digitChars_ne_nil]) (by simp)
      (congrArg Decimal.value (same ?_ ?_))⟩
    · have first : Numeral.appendDigits 0 ['0'] = 0 := rfl
      change Numeral.appendDigits 0 _ = _
      rw [Numeral.appendDigits_append, Numeral.appendDigits_append, first, appendDigits_zeros,
        Nat.zero_mul, all]
    · simp only [List.length_append, List.length_replicate]
      omega
  · split
    · next large =>
      refine ⟨_, prints_pointed (isWhole_append positive _ (isDigit_zeros _)) (isDigit_zeros 1)
        (by simp) ?_ ?_⟩
      · simp only [List.length_append, List.length_replicate]
        omega
      · have exponent : d.exponent = (point.toNat - (digitChars d.digits).length : Nat) := by omega
        have number (k : Nat) : natOfDigits (digitChars d.digits ++ (List.replicate k '0' ++
            ['0'])) = d.digits * 10 ^ k * 10 := by
          change Numeral.appendDigits 0 _ = _
          rw [Numeral.appendDigits_append, all, ← List.replicate_succ', appendDigits_zeros,
            Nat.pow_succ, Nat.mul_assoc]
        simp [Decimal.value, Numeral.decimal, number, exponent]
    · next inside =>
      refine ⟨_, prints_pointed (isWhole_take positive ?_)
        (fun c member => digits c (List.mem_of_mem_drop member)) ?_ ?_
        (congrArg Decimal.value (same ?_ ?_))⟩
      · omega
      · simp
        omega
      · rw [List.length_take]
        omega
      · rw [List.take_append_drop]
        exact all
      · rw [List.length_drop]
        omega

theorem prints_scientificText {point : Int}
    (place : point = (digitChars d.digits).length + d.exponent) :
    ∃ n, Prints (DecimalLayout.scientificText (digitChars d.digits) point) d n := by
  have digits : ∀ c ∈ digitChars d.digits, c.isDigit = true :=
    fun c member => Decimal.isDigit_of_mem_digitChars member
  have all := Decimal.natOfDigits_digitChars d.digits
  have leading := isWhole_take positive Nat.one_pos
  unfold DecimalLayout.scientificText
  cases chars : digitChars d.digits with
  | nil => exact absurd chars (Decimal.digitChars_ne_nil _)
  | cons c rest =>
    rw [chars] at digits all leading place
    rw [List.take_one] at leading
    cases rest with
    | nil =>
      have read := ofText?_whole leading (isTail_exponent (point - 1))
      have same : Numeral.decimal ⟨[c], [], some (point - 1)⟩ = d := by
        have exponent : point - 1 = d.exponent := by
          simp only [List.length_cons, List.length_nil] at place
          omega
        simp [Numeral.decimal, all, exponent]
      exact ⟨_, by simpa using read, by simp [Numeral.isInteger], ⟨leading.digits, by simp⟩,
        congrArg Decimal.value same⟩
    | cons next rest =>
      have read := ofText?_pointed leading (List.forall_mem_cons.mp digits).2 (by simp)
        (isTail_exponent (point - 1))
      have same : Numeral.decimal ⟨[c], next :: rest, some (point - 1)⟩ = d := by
        have exponent : point - 1 - (rest.length + 1) = d.exponent := by
          simp only [List.length_cons] at place
          omega
        simp [Numeral.decimal, all, exponent]
      exact ⟨_, by simpa using read, by simp [Numeral.isInteger], ⟨leading.digits, by simp⟩,
        congrArg Decimal.value same⟩

end Layout

/-- A numeral that is told from an integer is read as its number, after a sign too. -/
theorem number?_numeral {text : List Char} {n : Numeral} {y : Binary64}
    (read : Numeral.ofText? text = some n) (pointed : n.isInteger = false)
    (scaled : n.toBinary64? = some y) (negative : Bool) :
    number? ((if negative then ['-'] else []) ++ text) =
      some (.float (.ofMagnitude negative y.magnitude)) := by
  cases negative with
  | true => simp [number?, read, pointed, scaled]
  | false =>
    have first := (chars_of_numeral read).1
    cases text with
    | nil => simp at first
    | cons c rest =>
      have unsigned : c ≠ '-' := by
        rintro rfl
        simp at first
      simp [number?, unsigned, read, pointed, scaled]

theorem prints_write {x : Binary64} (some_value : x.magnitude ≠ 0) :
    ∃ text n, floatText x = (if x.isNegative then ['-'] else []) ++ text ∧
      Prints text (Decimal.shortest .toEven x.magnitude) n := by
  have positive := Decimal.digits_shortest_pos .toEven some_value
  have written (d : Decimal) (same : Decimal.shortest .toEven x.magnitude = d) :
      floatText x = (if x.isNegative then ['-'] else []) ++
        if DecimalLayout.document.plain ((digitChars d.digits).length + d.exponent) then
          DecimalLayout.plainText true (digitChars d.digits)
            ((digitChars d.digits).length + d.exponent)
        else DecimalLayout.scientificText (digitChars d.digits)
          ((digitChars d.digits).length + d.exponent) := by
    subst same
    simp only [floatText, DecimalLayout.write, if_neg some_value]
    rfl
  generalize Decimal.shortest .toEven x.magnitude = d at *
  rw [written d rfl]
  by_cases plain : DecimalLayout.document.plain ((digitChars d.digits).length + d.exponent) = true
  · have few := ((Bool.and_eq_true _ _).mp plain).2
    obtain ⟨n, prints⟩ := prints_plainText positive rfl (of_decide_eq_true few)
    exact ⟨_, n, by rw [if_pos plain], prints⟩
  · obtain ⟨n, prints⟩ := prints_scientificText positive rfl
    exact ⟨_, n, by rw [if_neg plain], prints⟩

end Json

namespace Binary64

theorem eq_ofMagnitude (x : Binary64) : x = ofMagnitude x.isNegative x.magnitude := by
  have size : x.bits.toNat < 2 * signBit := x.bits.toNat_lt
  have bits : x.magnitude + (if x.isNegative then signBit else 0) = x.bits.toNat := by
    unfold magnitude isNegative
    by_cases negative : signBit ≤ x.bits.toNat
    · rw [decide_eq_true negative, if_pos rfl, Nat.mod_eq_sub_mod negative,
        Nat.mod_eq_of_lt (by omega)]
      omega
    · simp [negative, Nat.mod_eq_of_lt (Nat.lt_of_not_le negative)]
  rw [ofMagnitude, bits, UInt64.ofNat_toNat]

theorem rereads_of_number? {x y : Binary64} (finite : x.isFinite = true)
    (read : Json.number? (Json.floatText x) = some (.float y)) : x.Rereads := by
  rw [Rereads, reread, if_pos finite, read]

theorem rereads_ofMagnitude_zero (negative : Bool) : (ofMagnitude negative 0).Rereads := by
  cases negative <;> decide +kernel

theorem rereads_ofMagnitude_largest (negative : Bool) :
    (ofMagnitude negative Decimal.largest).Rereads := by
  cases negative <;> decide +kernel

/-- The text of a finite number is read as a number. -/
theorem rereads_of_isFinite {x : Binary64} (finite : x.isFinite = true) : x.Rereads := by
  by_cases zero : x.magnitude = 0
  · rw [x.eq_ofMagnitude, zero]
    exact rereads_ofMagnitude_zero _
  by_cases top : x.magnitude = Decimal.largest
  · rw [x.eq_ofMagnitude, top]
    exact rereads_ofMagnitude_largest _
  have bound : x.magnitude < infinityBits := of_decide_eq_true finite
  have below : x.magnitude < Decimal.largest :=
    Nat.lt_of_le_of_ne (Nat.le_sub_one_of_lt bound) top
  obtain ⟨text, n, printed, prints⟩ := Json.prints_write zero
  have small (k : Nat) (le : (k : ℚ) ≤ n.gathered.value) : k ≤ Decimal.topMiddle := by
    refine Decimal.le_topMiddle .toEven zero below ?_
    rw [← prints.value]
    exact le_trans le (Json.Numeral.value_gathered_le prints.short)
  obtain ⟨y, scaled⟩ := Option.isSome_iff_exists.mp (Json.Numeral.isSome_toBinary64? small)
  have read := Json.number?_numeral prints.read prints.pointed scaled x.isNegative
  rw [← printed] at read
  exact rereads_of_number? finite read

end Binary64

end ReadoutControl
