import ReadoutControl.Json.Numeral

set_option autoImplicit false

/-!
The tokens of a JSON text. A string whose escapes leave half of a surrogate pair, and a number
beyond every finite one, are tokens without a value: they may be skipped but not read.
-/

namespace ReadoutControl.Json

inductive Scalar where
  | null
  | bool (b : Bool)
  | int (n : Int)
  | float (x : Binary64)
  | str (s : String)
  | unreadable
  deriving DecidableEq

inductive Token where
  | openArr
  | closeArr
  | openObj
  | closeObj
  | comma
  | colon
  | scalar (value : Scalar)
  /-- A string, which may also be a key. -/
  | text (content : Option String)
  deriving DecidableEq

def isSpace (c : Char) : Bool := c = ' ' || c = '\n' || c = '\t' || c = '\r'

def hexValue? (c : Char) : Option Nat :=
  let n := c.toNat
  if 48 ≤ n ∧ n ≤ 57 then some (n - 48)
  else if 65 ≤ n ∧ n ≤ 70 then some (n - 55)
  else if 97 ≤ n ∧ n ≤ 102 then some (n - 87)
  else none

def isHigh (unit : Nat) : Bool := 0xD800 ≤ unit && unit < 0xDC00

def isLow (unit : Nat) : Bool := 0xDC00 ≤ unit && unit < 0xE000

/-- Joins the halves of surrogate pairs; a half that stands alone has no character. -/
def joinUnits? : List Nat → Option (List Char)
  | [] => some []
  | [unit] => if isHigh unit || isLow unit then none else some [Char.ofNat unit]
  | unit :: next :: rest =>
    if isHigh unit then
      if isLow next then
        let code := 0x10000 + (unit - 0xD800) * 0x400 + (next - 0xDC00)
        (joinUnits? rest).map (Char.ofNat code :: ·)
      else none
    else if isLow unit then none
    else (joinUnits? (next :: rest)).map (Char.ofNat unit :: ·)

/-- The code unit of four hexadecimal digits. -/
def hexUnit? (a b c d : Char) : Option Nat :=
  (hexValue? a).bind fun w => (hexValue? b).bind fun x => (hexValue? c).bind fun y =>
    (hexValue? d).map fun z => w * 4096 + x * 256 + y * 16 + z

/-- The code unit of an escape of one letter. -/
def shortEscape? (c : Char) : Option Nat :=
  match c with
  | '"' => some 34
  | '\\' => some 92
  | '/' => some 47
  | 'b' => some 8
  | 'f' => some 12
  | 'n' => some 10
  | 'r' => some 13
  | 't' => some 9
  | _ => none

/-- The code units of a string up to its closing quote, and what follows the quote. -/
def stringUnits? : List Char → Option (List Nat × List Char)
  | [] => none
  | '"' :: rest => some ([], rest)
  | '\\' :: 'u' :: a :: b :: c :: d :: rest =>
    (hexUnit? a b c d).bind fun unit =>
      (stringUnits? rest).map fun (units, after) => (unit :: units, after)
  | '\\' :: c :: rest =>
    (shortEscape? c).bind fun unit =>
      (stringUnits? rest).map fun (units, after) => (unit :: units, after)
  | c :: rest =>
    if c.toNat < 32 ∨ c = '\\' then none
    else (stringUnits? rest).map fun (units, after) => (c.toNat :: units, after)

def isNumberChar (c : Char) : Bool :=
  c.isDigit || c = '-' || c = '+' || c = '.' || c = 'e' || c = 'E'

/-- The number of a whole run of number characters. Integers of 64 bits, signed or not, stay
integers, but for minus zero. -/
def number? (cs : List Char) : Option Scalar :=
  let (negative, body) := match cs with
    | '-' :: rest => (true, rest)
    | cs => (false, cs)
  (Numeral.ofText? body).map fun n =>
    let digits := Decimal.natOfDigits n.whole
    if n.isInteger && !negative && digits < UInt64.size then .int digits
    else if n.isInteger && negative && 0 < digits && digits ≤ 0x8000000000000000 then .int (-digits)
    else match n.toBinary64? with
      | some x => .float (.ofMagnitude negative x.magnitude)
      | none => .unreadable

/-- The word of a constant. -/
def word? (cs : List Char) : Option Scalar :=
  if cs = ['n', 'u', 'l', 'l'] then some .null
  else if cs = ['t', 'r', 'u', 'e'] then some (.bool true)
  else if cs = ['f', 'a', 'l', 's', 'e'] then some (.bool false)
  else none

/-- The token that begins with the first character, and what follows it. -/
def token? (c : Char) (rest : List Char) : Option (Token × List Char) :=
  match c with
  | '[' => some (.openArr, rest)
  | ']' => some (.closeArr, rest)
  | '\x7b' => some (.openObj, rest)
  | '\x7d' => some (.closeObj, rest)
  | ',' => some (.comma, rest)
  | ':' => some (.colon, rest)
  | '"' => (stringUnits? rest).map fun (units, after) =>
      (.text ((joinUnits? units).map String.ofList), after)
  | c =>
    if c.isDigit || c = '-' then
      (number? (c :: rest.takeWhile isNumberChar)).map fun value =>
        (.scalar value, rest.dropWhile isNumberChar)
    else
      (word? (c :: rest.takeWhile Char.isAlpha)).map fun value =>
        (.scalar value, rest.dropWhile Char.isAlpha)

theorem length_dropWhile_le {α : Type} (p : α → Bool) (xs : List α) :
    (xs.dropWhile p).length ≤ xs.length := by
  induction xs with
  | nil => simp
  | cons x xs ih =>
    rw [List.dropWhile_cons]
    split
    · exact Nat.le_succ_of_le ih
    · exact Nat.le_refl _

theorem length_le_of_stringUnits? {cs : List Char} {units : List Nat} {after : List Char}
    (h : stringUnits? cs = some (units, after)) : after.length ≤ cs.length := by
  fun_induction stringUnits? cs generalizing units with
  | case1 => simp at h
  | case2 rest =>
    simp only [Option.some.injEq, Prod.mk.injEq] at h
    simp [← h.2]
  | case3 a b c d rest ih =>
    obtain ⟨unit, _, h⟩ := Option.bind_eq_some_iff.1 h
    obtain ⟨⟨us, r⟩, hr, he⟩ := Option.map_eq_some_iff.1 h
    simp only [Prod.mk.injEq] at he
    have := ih (he.2 ▸ hr)
    simp only [List.length_cons]
    omega
  | case4 c rest _ ih =>
    obtain ⟨unit, _, h⟩ := Option.bind_eq_some_iff.1 h
    obtain ⟨⟨us, r⟩, hr, he⟩ := Option.map_eq_some_iff.1 h
    simp only [Prod.mk.injEq] at he
    have := ih (he.2 ▸ hr)
    simp only [List.length_cons]
    omega
  | case5 => simp at h
  | case6 c rest _ _ _ _ ih =>
    obtain ⟨⟨us, r⟩, hr, he⟩ := Option.map_eq_some_iff.1 h
    simp only [Prod.mk.injEq] at he
    have := ih (he.2 ▸ hr)
    simp only [List.length_cons]
    omega

theorem length_le_of_eq_rest {rest after : List Char} {s t : Token}
    (h : some (s, rest) = some (t, after)) : after.length ≤ rest.length := by
  have same : rest = after := (Prod.mk.inj (Option.some.inj h)).2
  exact Nat.le_of_eq (congrArg List.length same.symm)

theorem length_le_of_token? {c : Char} {rest after : List Char} {t : Token}
    (h : token? c rest = some (t, after)) : after.length ≤ rest.length := by
  unfold token? at h
  split at h
  · exact length_le_of_eq_rest h
  · exact length_le_of_eq_rest h
  · exact length_le_of_eq_rest h
  · exact length_le_of_eq_rest h
  · exact length_le_of_eq_rest h
  · exact length_le_of_eq_rest h
  · obtain ⟨⟨units, r⟩, hu, he⟩ := Option.map_eq_some_iff.1 h
    obtain rfl : r = after := (Prod.mk.inj he).2
    exact length_le_of_stringUnits? hu
  · split at h
    · obtain ⟨v, _, he⟩ := Option.map_eq_some_iff.1 h
      obtain rfl := (Prod.mk.inj he).2
      exact length_dropWhile_le _ _
    · obtain ⟨v, _, he⟩ := Option.map_eq_some_iff.1 h
      obtain rfl := (Prod.mk.inj he).2
      exact length_dropWhile_le _ _

end ReadoutControl.Json
