import Mathlib.Algebra.Group.Nat.Defs
import Mathlib.Data.List.Induction
import ReadoutControl.Proofs.Text.Words
import ReadoutControl.Text.Numeral

set_option autoImplicit false

/-!
Numerals are read back from their digits: in any base up to sixteen, with zeros in front and with
letters of either case. A numeral of a fixed width holds every number that has no more digits. What
is read as a number is a numeral, or one with a plus sign in front.
-/

namespace ReadoutControl.Text

/-- In upper-case hexadecimal, with zeros in front up to a width. -/
def paddedHex (width n : Nat) : List Char :=
  ((Nat.toDigits 16 n).map Char.toUpper).leftpad width '0'

/-- The character that prints the value of a digit, or the capital letter of that character. -/
def IsDigit (base : Nat) (c : Char) (d : Nat) : Prop :=
  d < base ∧ (c = Nat.digitChar d ∨ c = (Nat.digitChar d).toUpper)

/-- A number in digits of a base, perhaps with zeros in front. -/
inductive Numeral (base : Nat) : List Char → Nat → Prop
  | digit {c : Char} {d : Nat} : IsDigit base c d → Numeral base [c] d
  | concat {cs : List Char} {n d : Nat} {c : Char} :
    Numeral base cs n → IsDigit base c d → Numeral base (cs ++ [c]) (base * n + d)

/-- A numeral that may have a plus sign in front. -/
inductive Signed (base : Nat) : List Char → Nat → Prop
  | plain {cs : List Char} {n : Nat} : Numeral base cs n → Signed base cs n
  | plus {cs : List Char} {n : Nat} : Numeral base cs n → Signed base ('+' :: cs) n

variable {base n : Nat} {cs : List Char}

theorem digitValue?_digitChar :
    ∀ base ≤ 16, ∀ d < base, digitValue? base (Nat.digitChar d) = some d := by
  decide

theorem toNat_digitChar :
    ∀ d < 16, (Nat.digitChar d).toNat = if d < 10 then d + 48 else d + 87 := by
  decide

/-- An upper-case letter stands 32 places before the lower-case one. -/
theorem toNat_toUpper (c : Char) :
    c.toUpper.toNat = if 97 ≤ c.toNat ∧ c.toNat ≤ 122 then c.toNat - 32 else c.toNat := by
  have lower : ('a'.val ≤ c.val ∧ c.val ≤ 'z'.val) ↔ 97 ≤ c.toNat ∧ c.toNat ≤ 122 := Iff.rfl
  unfold Char.toUpper
  by_cases letter : 97 ≤ c.toNat ∧ c.toNat ≤ 122
  · rw [dif_pos (lower.mpr letter), if_pos letter]
    have shift : ('A'.val - 'a'.val).toNat = 2 ^ 32 - 32 := by decide
    have sum := UInt32.toNat_add c.val ('A'.val - 'a'.val)
    rw [shift, c.toNat_val] at sum
    rw [← Char.toNat_val, sum]
    omega
  · rw [dif_neg (mt lower.mp letter), if_neg letter]

theorem digitValue?_toUpper (base : Nat) (c : Char) :
    digitValue? base c.toUpper = digitValue? base c := by
  simp only [digitValue?, toNat_toUpper]
  congr 1
  grind

theorem digits?_concat (nonempty : cs ≠ []) (c : Char) :
    digits? base (cs ++ [c]) =
      (digits? base cs).bind fun n => (digitValue? base c).map (base * n + ·) := by
  simp [digits?, nonempty, List.foldlM_append]

theorem digits?_toDigits (several : 1 < base) (few : base ≤ 16) (n : Nat) :
    digits? base (Nat.toDigits base n) = some n := by
  induction n using Nat.strongRecOn with
  | ind n ih =>
    by_cases small : n < base
    · rw [Nat.toDigits_of_lt_base small]
      simp [digits?, digitValue?_digitChar base few n small]
    · have smaller : n / base < n := Nat.div_lt_self (by omega) several
      have last : n % base < base := Nat.mod_lt n (by omega)
      rw [Nat.toDigits_of_base_le several (by omega), digits?_concat Nat.toDigits_ne_nil,
        ih _ smaller]
      simp [digitValue?_digitChar base few _ last, Nat.div_add_mod]

theorem digits?_map_toUpper (base : Nat) (cs : List Char) :
    digits? base (cs.map Char.toUpper) = digits? base cs := by
  simp [digits?, List.foldlM_map, digitValue?_toUpper]

theorem digits?_zero_cons (positive : 0 < base) (nonempty : cs ≠ []) :
    digits? base ('0' :: cs) = digits? base cs := by
  have zero : digitValue? base '0' = some 0 := by simp [digitValue?, positive]
  simp [digits?, nonempty, zero]

theorem digits?_leftpad (positive : 0 < base) (nonempty : cs ≠ []) (width : Nat) :
    digits? base (cs.leftpad width '0') = digits? base cs := by
  rw [List.leftpad]
  generalize width - cs.length = missing
  induction missing with
  | zero => rfl
  | succ missing ih =>
    rw [List.replicate_succ, List.cons_append, digits?_zero_cons positive (by simp [nonempty]), ih]

theorem digits?_paddedHex (width n : Nat) : digits? 16 (paddedHex width n) = some n := by
  have nonempty : (Nat.toDigits 16 n).map Char.toUpper ≠ [] := by simp [Nat.toDigits_ne_nil]
  rw [paddedHex, digits?_leftpad (by decide) nonempty, digits?_map_toUpper,
    digits?_toDigits (by decide) (by decide)]

theorem length_paddedHex {width : Nat} (positive : 0 < width) (fits : n < 16 ^ width) :
    (paddedHex width n).length = width := by
  have digits := (Nat.length_toDigits_le_iff (by decide) positive).mpr fits
  simp [paddedHex, digits]

/-- Every character of a numeral is a digit. -/
theorem isSome_digitValue?_of_mem (numeral : digits? base cs = some n) {c : Char}
    (member : c ∈ cs) : (digitValue? base c).isSome = true := by
  have folded : cs.foldlM (fun n c => (digitValue? base c).map (base * n + ·)) 0 = some n := by
    unfold digits? at numeral
    split at numeral
    · contradiction
    · exact numeral
  clear numeral
  -- What has been read so far does not matter, so the induction is for any start.
  generalize 0 = start at folded
  induction cs generalizing start with
  | nil => contradiction
  | cons first rest ih =>
    cases value : digitValue? base first with
    | none => simp [value] at folded
    | some d =>
      rw [List.foldlM_cons, value] at folded
      rcases List.mem_cons.mp member with rfl | later
      · rw [value]
        rfl
      · exact ih later _ folded

theorem isBlank_of_digit {c : Char} (digit : (digitValue? base c).isSome = true) :
    isBlank c = false := by
  have within : 48 ≤ c.toNat ∧ c.toNat ≤ 102 := by
    unfold digitValue? at digit
    grind
  simp only [isBlank]
  grind

theorem isWord_of_digits? (numeral : digits? base cs = some n) : IsWord cs := by
  refine ⟨?_, fun c member => isBlank_of_digit (isSome_digitValue?_of_mem numeral member)⟩
  rintro rfl
  contradiction

/-- A plus sign is no digit. -/
theorem plus_notMem_of_digits? (numeral : digits? base cs = some n) : '+' ∉ cs := by
  intro member
  have digit := isSome_digitValue?_of_mem numeral member
  simp [digitValue?] at digit

theorem natural?_plain (plain : ∀ rest, cs ≠ '+' :: rest) (limit : Nat) :
    natural? base limit cs = (digits? base cs).filter (· < limit) := by
  unfold natural?
  split
  next rest => exact absurd rfl (plain rest)
  next => rfl

theorem natural?_of_digits? (numeral : digits? base cs = some n) {limit : Nat}
    (fits : n < limit) : natural? base limit cs = some n := by
  have plain : ∀ rest, cs ≠ '+' :: rest := by
    rintro rest rfl
    exact plus_notMem_of_digits? numeral List.mem_cons_self
  simp [natural?_plain plain, numeral, fits]

theorem Numeral.lt (numeral : Numeral base cs n) : n < base ^ cs.length := by
  induction numeral with
  | digit digit => simpa using digit.1
  | @concat cs n d c _ digit ih =>
    calc base * n + d < base * (n + 1) := Nat.add_lt_add_left digit.1 _
      _ ≤ base * base ^ cs.length := Nat.mul_le_mul_left base ih
      _ = base ^ (cs ++ [c]).length := by simp [Nat.pow_succ, Nat.mul_comm]

theorem Numeral.base_pos (numeral : Numeral base cs n) : 0 < base := by
  cases numeral with
  | digit digit => exact Nat.zero_lt_of_lt digit.1
  | concat _ digit => exact Nat.zero_lt_of_lt digit.1

theorem Signed.lt (signed : Signed base cs n) : n < base ^ cs.length := by
  cases signed with
  | plain numeral => exact numeral.lt
  | plus numeral =>
    exact Nat.lt_of_lt_of_le numeral.lt (Nat.pow_le_pow_right numeral.base_pos (Nat.le_succ _))

theorem Signed.numeral (signed : Signed base cs n) (bare : '+' ∉ cs) : Numeral base cs n := by
  cases signed with
  | plain numeral => exact numeral
  | plus _ => exact absurd List.mem_cons_self bare

section Spelling

variable (few : base ≤ 16)

include few

theorem digitValue?_eq_some_iff {c : Char} {d : Nat} :
    digitValue? base c = some d ↔ IsDigit base c d := by
  constructor
  · intro value
    obtain ⟨value, below⟩ := Option.filter_eq_some_iff.mp value
    have below : d < base := of_decide_eq_true below
    have code := toNat_digitChar d (by omega)
    refine ⟨below, ?_⟩
    rw [← Char.toNat_inj, ← Char.toNat_inj, toNat_toUpper, code]
    grind
  · rintro ⟨below, rfl | rfl⟩
    · exact digitValue?_digitChar base few d below
    · rw [digitValue?_toUpper, digitValue?_digitChar base few d below]

theorem digits?_eq_some_iff : digits? base cs = some n ↔ Numeral base cs n := by
  constructor
  · intro numeral
    induction cs using List.reverseRecOn generalizing n with
    | nil => exact nomatch numeral
    | append_singleton cs c ih =>
      cases cs with
      | nil =>
        have value : digitValue? base c = some n := by simpa [digits?] using numeral
        exact .digit ((digitValue?_eq_some_iff few).mp value)
      | cons first rest =>
        rw [digits?_concat (List.cons_ne_nil first rest)] at numeral
        obtain ⟨m, front, last⟩ := Option.bind_eq_some_iff.mp numeral
        obtain ⟨d, value, rfl⟩ := Option.map_eq_some_iff.mp last
        exact .concat (ih front) ((digitValue?_eq_some_iff few).mp value)
  · intro numeral
    induction numeral with
    | digit digit => simp [digits?, (digitValue?_eq_some_iff few).mpr digit]
    | @concat cs m d c front digit ih =>
      have nonempty : cs ≠ [] := by
        rintro rfl
        exact nomatch ih
      rw [digits?_concat nonempty, ih, Option.bind_some, (digitValue?_eq_some_iff few).mpr digit]
      rfl

theorem Numeral.isSome_digitValue?_of_mem (numeral : Numeral base cs n) {c : Char}
    (member : c ∈ cs) : (digitValue? base c).isSome = true :=
  Text.isSome_digitValue?_of_mem ((digits?_eq_some_iff few).mpr numeral) member

/-- What is read as a number below a limit. -/
theorem natural?_eq_some_iff {limit : Nat} :
    natural? base limit cs = some n ↔ Signed base cs n ∧ n < limit := by
  constructor
  · intro read
    obtain ⟨numeral, below⟩ := Option.filter_eq_some_iff.mp read
    refine ⟨?_, of_decide_eq_true below⟩
    split at numeral
    next rest => exact .plus ((digits?_eq_some_iff few).mp numeral)
    next => exact .plain ((digits?_eq_some_iff few).mp numeral)
  · rintro ⟨signed, below⟩
    cases signed with
    | plain numeral => exact natural?_of_digits? ((digits?_eq_some_iff few).mpr numeral) below
    | @plus cs n numeral =>
      have read := (digits?_eq_some_iff few).mpr numeral
      simp [natural?, read, below]

theorem isSome_natural?_iff {limit : Nat} :
    (natural? base limit cs).isSome = true ↔ ∃ n, Signed base cs n ∧ n < limit := by
  simp only [Option.isSome_iff_exists, natural?_eq_some_iff few]

end Spelling

end ReadoutControl.Text
