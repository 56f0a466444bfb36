import Mathlib.Algebra.Group.Int.Defs
import ReadoutControl.Json.Printer
import ReadoutControl.Json.Token
import ReadoutControl.Proofs.Number.Digits

set_option autoImplicit false

/-!
Every piece of printed text is read as the token it was printed from. A number or a word ends where
no character follows that could go on with it, and a string at its own quote.
-/

namespace ReadoutControl

/-- The text of the number is read as the number. -/
def Binary64.ReadsBack (x : Binary64) : Prop :=
  Json.number? (Json.floatText x) = some (.float x)

instance (x : Binary64) : Decidable x.ReadsBack := inferInstanceAs (Decidable (_ = _))

namespace Json

/-- The text does not go on with a number or a word. -/
def Ends (rest : List Char) : Prop :=
  ∀ c ∈ rest.head?, isNumberChar c = false ∧ c.isAlpha = false

section Runs

variable {p : Char → Bool} {word rest : List Char}

theorem takeWhile_run (all : ∀ c ∈ word, p c = true) (stop : ∀ c ∈ rest.head?, p c = false) :
    (word ++ rest).takeWhile p = word := by
  rw [List.takeWhile_append_of_pos all]
  cases rest with
  | nil => simp
  | cons c rest => simp [stop c rfl]

theorem dropWhile_run (all : ∀ c ∈ word, p c = true) (stop : ∀ c ∈ rest.head?, p c = false) :
    (word ++ rest).dropWhile p = rest := by
  rw [List.dropWhile_append_of_pos all]
  cases rest with
  | nil => simp
  | cons c rest => simp [stop c rfl]

end Runs

/-- The characters that make a token on their own or open a string. -/
def marks : List Char := ['[', ']', '\x7b', '\x7d', ',', ':', '"']

theorem token?_of_notMem_marks {c : Char} (other : c ∉ marks) (rest : List Char) :
    token? c rest =
      if c.isDigit || c = '-' then
        (number? (c :: rest.takeWhile isNumberChar)).map fun value =>
          (.scalar value, rest.dropWhile isNumberChar)
      else
        (word? (c :: rest.takeWhile Char.isAlpha)).map fun value =>
          (.scalar value, rest.dropWhile Char.isAlpha) := by
  unfold token?
  split
  case h_8 => rfl
  all_goals exact absurd (by decide) other

theorem token?_word {c : Char} {word rest : List Char} {value : Scalar} (other : c ∉ marks)
    (noNumber : (c.isDigit || c = '-') = false) (letters : word.all Char.isAlpha = true)
    (known : word? (c :: word) = some value) (ends : Ends rest) :
    token? c (word ++ rest) = some (.scalar value, rest) := by
  have all : ∀ c ∈ word, c.isAlpha = true := List.all_eq_true.mp letters
  have stop : ∀ c ∈ rest.head?, c.isAlpha = false := fun c first => (ends c first).2
  simp [token?_of_notMem_marks other, noNumber, takeWhile_run all stop, dropWhile_run all stop,
    known]

theorem isNumberChar_of_isDigit {c : Char} (digit : c.isDigit = true) : isNumberChar c = true := by
  simp [isNumberChar, digit]

/-- What can be read as an exponent is made of the characters of numbers. -/
theorem isNumberChar_of_exponentOfText? {cs : List Char} {e : Int}
    (read : Binary64.exponentOfText? cs = some e) : ∀ c ∈ cs, isNumberChar c = true := by
  have digits {ds : List Char} {n : Int}
      (read : (if ds.isEmpty || !ds.all Char.isDigit then none else some n) = some e) :
      ∀ c ∈ ds, isNumberChar c = true := by
    have sound := (Option.ite_none_left_eq_some.mp read).1
    simp only [Bool.or_eq_true, not_or, Bool.not_eq_true', Bool.not_eq_false] at sound
    exact fun c member => isNumberChar_of_isDigit (List.all_eq_true.mp sound.2 c member)
  cases cs with
  | nil => simp
  | cons c rest =>
    simp only [Binary64.exponentOfText?] at read
    split at read
    · simp at read
    · next letter =>
      have mark : isNumberChar c = true := by
        simp only [isNumberChar, Bool.or_eq_true, decide_eq_true_eq]
        by_cases lower : c = 'e'
        · exact .inl (.inr lower)
        · exact .inr (Decidable.byContradiction fun upper => letter ⟨lower, upper⟩)
      rw [List.forall_mem_cons]
      refine ⟨mark, ?_⟩
      -- The sign may be absent.
      split at read
      · exact List.forall_mem_cons.mpr ⟨by decide, digits read⟩
      · exact List.forall_mem_cons.mpr ⟨by decide, digits read⟩
      · exact digits read

theorem isNumberChar_takeWhile (cs : List Char) :
    ∀ c ∈ cs.takeWhile Char.isDigit, isNumberChar c = true :=
  fun c member => isNumberChar_of_isDigit
    (List.all_eq_true.mp List.all_takeWhile c member)

theorem chars_of_numeral {cs : List Char} {n : Numeral} (read : Numeral.ofText? cs = some n) :
    cs.head?.any Char.isDigit = true ∧ ∀ c ∈ cs, isNumberChar c = true := by
  simp only [Numeral.ofText?] at read
  split at read
  · simp at read
  · next sound =>
    have whole : cs.head?.any Char.isDigit = true := by
      cases cs with
      | nil => simp at sound
      | cons c rest =>
        cases digit : c.isDigit with
        | true => simp [digit]
        | false => simp [digit] at sound
    have parts : cs.takeWhile Char.isDigit ++ cs.dropWhile Char.isDigit = cs :=
      List.takeWhile_append_dropWhile
    refine ⟨whole, ?_⟩
    rw [← parts, List.forall_mem_append]
    refine ⟨isNumberChar_takeWhile cs, ?_⟩
    split at read
    · next more pointed =>
      obtain ⟨_, read⟩ := Option.ite_none_left_eq_some.mp read
      obtain ⟨e, exponent, _⟩ := Option.map_eq_some_iff.mp read
      have fraction : more.takeWhile Char.isDigit ++ more.dropWhile Char.isDigit = more :=
        List.takeWhile_append_dropWhile
      rw [pointed, List.forall_mem_cons, ← fraction, List.forall_mem_append]
      exact ⟨by decide, isNumberChar_takeWhile more, isNumberChar_of_exponentOfText? exponent⟩
    · obtain ⟨_, read⟩ := Option.ite_none_left_eq_some.mp read
      obtain ⟨e, exponent, _⟩ := Option.map_eq_some_iff.mp read
      exact isNumberChar_of_exponentOfText? exponent

/-- A text that is read as a number begins like one and has no other characters. -/
theorem chars_of_number? {cs : List Char} {value : Scalar} (read : number? cs = some value) :
    ∃ c rest, cs = c :: rest ∧ (c.isDigit || c = '-') = true ∧
      ∀ c ∈ rest, isNumberChar c = true := by
  unfold number? at read
  split at read
  · next negative body signed =>
    obtain ⟨n, numeral, _⟩ := Option.map_eq_some_iff.mp read
    obtain ⟨first, all⟩ := chars_of_numeral numeral
    split at signed
    · obtain ⟨_, rfl⟩ := Prod.mk.inj signed
      exact ⟨'-', _, rfl, by decide, all⟩
    · obtain ⟨_, rfl⟩ := Prod.mk.inj signed
      cases cs with
      | nil => simp at first
      | cons c rest =>
        have digit : c.isDigit = true := by simpa using first
        exact ⟨c, rest, rfl, by simp [digit], (List.forall_mem_cons.mp all).2⟩

theorem notMem_marks {c : Char} (number : (c.isDigit || c = '-') = true) : c ∉ marks := by
  intro mark
  simp only [marks, List.mem_cons, List.not_mem_nil, or_false] at mark
  rcases mark with rfl | rfl | rfl | rfl | rfl | rfl | rfl <;> simp at number

theorem token?_number {c : Char} {word rest : List Char} {value : Scalar}
    (read : number? (c :: word) = some value) (ends : Ends rest) :
    token? c (word ++ rest) = some (.scalar value, rest) := by
  obtain ⟨_, _, same, first, all⟩ := chars_of_number? read
  obtain ⟨rfl, rfl⟩ := List.cons.inj same
  have stop : ∀ c ∈ rest.head?, isNumberChar c = false := fun c first => (ends c first).1
  simp [token?_of_notMem_marks (notMem_marks first), first, takeWhile_run all stop,
    dropWhile_run all stop, read]

theorem numeral_digitChars (n : Nat) :
    Numeral.ofText? (Decimal.digitChars n) = some ⟨Decimal.digitChars n, [], none⟩ := by
  have digits : ∀ c ∈ Decimal.digitChars n, c.isDigit = true :=
    fun c member => Decimal.isDigit_of_mem_digitChars member
  have whole : (Decimal.digitChars n ++ []).takeWhile Char.isDigit = Decimal.digitChars n :=
    takeWhile_run digits (by simp)
  have rest : (Decimal.digitChars n ++ []).dropWhile Char.isDigit = [] :=
    dropWhile_run digits (by simp)
  rw [List.append_nil] at whole rest
  have leading : (decide ((Decimal.digitChars n).head? = some '0') &&
      decide (1 < (Decimal.digitChars n).length)) = false := by
    by_cases zero : (Decimal.digitChars n).head? = some '0'
    · simp [Decimal.length_digitChars_of_head? zero]
    · simp [zero]
  simp [Numeral.ofText?, whole, rest, leading, Decimal.digitChars_ne_nil, Binary64.exponentOfText?]

theorem number?_digitChars {n : Nat} (bound : n < UInt64.size) :
    number? (Decimal.digitChars n) = some (.int n) := by
  have value := Decimal.natOfDigits_digitChars n
  have numeral := numeral_digitChars n
  obtain ⟨c, rest, chars⟩ := List.exists_cons_of_ne_nil (Decimal.digitChars_ne_nil n)
  have digit : c.isDigit = true :=
    Decimal.isDigit_of_mem_digitChars (chars ▸ List.mem_cons_self ..)
  have unsigned : c ≠ '-' := by
    rintro rfl
    contradiction
  rw [chars] at value numeral ⊢
  simp [number?, unsigned, numeral, Numeral.isInteger, value, bound]

theorem number?_minus {n : Nat} (positive : 0 < n) (bound : n ≤ 0x8000000000000000) :
    number? ('-' :: Decimal.digitChars n) = some (.int (-n)) := by
  have value := Decimal.natOfDigits_digitChars n
  have numeral := numeral_digitChars n
  simp [number?, numeral, Numeral.isInteger, value, positive, bound]

/-- An integer of 64 bits is read as it was printed. -/
theorem number?_intText {n : Int} (lower : -2 ^ 63 ≤ n) (upper : n < 2 ^ 64) :
    number? (intText n) = some (.int n) := by
  by_cases negative : n < 0
  · have same : -(n.natAbs : Int) = n := by omega
    rw [intText, if_pos negative, number?_minus (by omega) (by omega), same]
  · have small : n.natAbs < UInt64.size := by
      simp only [UInt64.size]
      omega
    have same : (n.natAbs : Int) = n := by omega
    rw [intText, if_neg negative, number?_digitChars small, same]

theorem hexUnit?_hexPair : ∀ n < 32,
    hexUnit? '0' '0' (Nat.digitChar (n / 16)) (Nat.digitChar (n % 16)) = some n := by
  decide

/-- However a character is escaped, its code is read. -/
theorem stringUnits?_escapeChar (c : Char) (rest : List Char) :
    stringUnits? (escapeChar c ++ rest) =
      (stringUnits? rest).map fun (units, after) => (c.toNat :: units, after) := by
  unfold escapeChar
  split
  case h_8 noQuote noBackslash _ _ _ _ _ =>
    split
    · next control =>
      simp [hexPair, stringUnits?, hexUnit?_hexPair _ control]
    · next plain =>
      rw [List.singleton_append, stringUnits?]
      · have other : ¬ (c.toNat < 32 ∨ c = '\\') := by
          rintro (low | backslash)
          · exact plain low
          · exact noBackslash backslash
        rw [if_neg other]
      all_goals simp_all
  all_goals simp [stringUnits?, shortEscape?]

theorem stringUnits?_escaped (cs rest : List Char) :
    stringUnits? (cs.flatMap escapeChar ++ '"' :: rest) = some (cs.map Char.toNat, rest) := by
  induction cs with
  | nil => simp [stringUnits?]
  | cons c cs ih => simp [stringUnits?_escapeChar, ih]

/-- Characters are never halves of a surrogate pair. -/
theorem no_surrogate (c : Char) : isHigh c.toNat = false ∧ isLow c.toNat = false := by
  have valid := c.valid
  have same : c.val.toNat = c.toNat := rfl
  simp only [UInt32.isValidChar, Nat.isValidChar, same] at valid
  simp only [isHigh, isLow, Bool.and_eq_false_iff, decide_eq_false_iff_not]
  omega

theorem joinUnits?_chars (cs : List Char) : joinUnits? (cs.map Char.toNat) = some cs := by
  induction cs with
  | nil => rfl
  | cons c cs ih =>
    have ⟨high, low⟩ := no_surrogate c
    cases cs with
    | nil => simp [joinUnits?, high, low]
    | cons next cs =>
      rw [List.map_cons, List.map_cons, joinUnits?, ← List.map_cons, ih]
      simp [high, low]

theorem token?_quoted (s : String) (rest : List Char) :
    token? '"' (s.toList.flatMap escapeChar ++ '"' :: rest) = some (.text (some s), rest) := by
  simp [token?, stringUnits?_escaped, joinUnits?_chars]

end Json

end ReadoutControl
