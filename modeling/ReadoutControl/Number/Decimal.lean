import ReadoutControl.Number.Binary64

set_option autoImplicit false

/-!
Decimal numerals for floating-point numbers: reading one to the nearest number, and choosing the
shortest one that reads back. A `DecimalLayout` says how the chosen digits are written.
-/

namespace ReadoutControl

/-- The value `digits * 10 ^ exponent`. -/
structure Decimal where
  digits : Nat
  exponent : Int
  deriving DecidableEq

namespace Decimal

def digitChars (n : Nat) : List Char := Nat.toDigits 10 n

def digitCount (n : Nat) : Nat := (digitChars n).length

def digitValue (c : Char) : Nat := c.toNat - '0'.toNat

def natOfDigits (cs : List Char) : Nat :=
  cs.foldl (fun n c => 10 * n + digitValue c) 0

def ratio (d : Decimal) : Nat × Nat :=
  match d.exponent with
  | .ofNat e => (d.digits * Nat.pow 10 e, 1)
  | .negSucc e => (d.digits, Nat.pow 10 (e + 1))

/-- The nearest pattern. Every value from `10 ^ 310` on is infinite and every one below
`10 ^ (-330)` is zero, so no large power is formed for them. -/
def roundMagnitude (d : Decimal) : Nat :=
  if d.digits = 0 then 0
  else
    let point := digitCount d.digits + d.exponent
    if 310 < point then Binary64.infinityBits
    else if point < -330 then 0
    else Binary64.roundRatio d.ratio.1 d.ratio.2

def toBinary64 (negative : Bool) (d : Decimal) : Binary64 :=
  .ofMagnitude negative d.roundMagnitude

/-- The same value without trailing zeros among the digits. -/
def stripZeros (d : Decimal) : Decimal :=
  if h : d.digits = 0 ∨ d.digits % 10 ≠ 0 then d
  else stripZeros ⟨d.digits / 10, d.exponent + 1⟩
termination_by d.digits
decreasing_by omega

/-- Which of two equally near numerals is taken. -/
inductive Tie where
  | toEven
  | up
  deriving DecidableEq

/-- The value `num / den` cut to the given power of ten, and what it leaves over. -/
def cut (num den : Nat) (place : Int) : Nat × Nat × Nat :=
  match place with
  | .ofNat e =>
    let unit := den * Nat.pow 10 e
    (num / unit, num % unit, unit)
  | .negSucc e =>
    let scaled := num * Nat.pow 10 (e + 1)
    (scaled / den, scaled % den, den)

/-- The numeral of the given last place that reads back as the pattern, the nearer of the two
neighbours of the value if both do. -/
def readingBackAt? (tie : Tie) (magnitude : Nat) (place : Int) : Option Decimal :=
  let (num, den) := Binary64.ratioOf magnitude
  let (below, rest, unit) := cut num den place
  let down : Decimal := ⟨below, place⟩
  let next : Decimal := ⟨below + 1, place⟩
  match down.roundMagnitude == magnitude, next.roundMagnitude == magnitude with
  | false, false => none
  | true, false => some down
  | false, true => some next
  | true, true =>
    if 2 * rest < unit then some down
    else if unit < 2 * rest then some next
    else match tie with
      | .up => some next
      | .toEven => some (if below % 2 = 0 then down else next)

/-- The exact value of a finite pattern. -/
def exact (magnitude : Nat) : Decimal :=
  match Binary64.exponentOf magnitude with
  | .ofNat e => ⟨Binary64.significandOf magnitude * Nat.pow 2 e, 0⟩
  | .negSucc e => ⟨Binary64.significandOf magnitude * Nat.pow 5 (e + 1), -(e + 1)⟩

/-- How many decimal places lie before the point of `num / den`; for small values it is not
positive. -/
def pointPlace (magnitude : Nat) : Int :=
  let d := exact magnitude
  digitCount d.digits + d.exponent

/-- A numeral with the fewest digits that reads back as the finite pattern. -/
def shortest (tie : Tie) (magnitude : Nat) : Decimal :=
  let point := pointPlace magnitude
  match (List.range 17).findSome? (fun n : Nat =>
      readingBackAt? tie magnitude (point - (n + 1 : Nat))) with
  | some d => d.stripZeros
  | none => (exact magnitude).stripZeros

end Decimal

/-- How a finite number is written. -/
structure DecimalLayout where
  tie : Decimal.Tie
  /-- Whether a whole number still shows a point and one zero. -/
  keepPoint : Bool
  /-- Whether a number is written in full when this many digits stand before its point. -/
  plain : Int → Bool

namespace DecimalLayout

def plainText (keepPoint : Bool) (digits : List Char) (point : Int) : List Char :=
  if point ≤ 0 then
    '0' :: '.' :: (List.replicate (-point).toNat '0' ++ digits)
  else if digits.length ≤ point.toNat then
    digits ++ List.replicate (point.toNat - digits.length) '0' ++
      if keepPoint then ['.', '0'] else []
  else digits.take point.toNat ++ '.' :: digits.drop point.toNat

def scientificText (digits : List Char) (point : Int) : List Char :=
  let mantissa := match digits with
    | [] => []
    | [d] => [d]
    | d :: rest => d :: '.' :: rest
  let exponent := point - 1
  mantissa ++ 'e' :: (if exponent < 0 then '-' else '+') :: Decimal.digitChars exponent.natAbs

/-- The text of a finite number. -/
def write (layout : DecimalLayout) (x : Binary64) : List Char :=
  let sign := if x.isNegative then ['-'] else []
  let text :=
    if x.magnitude = 0 then if layout.keepPoint then ['0', '.', '0'] else ['0']
    else
      let d := Decimal.shortest layout.tie x.magnitude
      let digits := Decimal.digitChars d.digits
      let point : Int := digits.length + d.exponent
      if layout.plain point then plainText layout.keepPoint digits point
      else scientificText digits point
  sign ++ text

/-- Documents: a point always shows, and numbers below `0.00001` or from `10 ^ 16` on take an
exponent. -/
def document : DecimalLayout where
  tie := .toEven
  keepPoint := true
  plain point := -5 < point && point ≤ 16

/-- Messages: every number is written in full and whole numbers show no point. -/
def message : DecimalLayout where
  tie := .up
  keepPoint := false
  plain _ := true

end DecimalLayout

namespace Binary64

/-- The text of any number, with words for those that are not finite. -/
def text (layout : DecimalLayout) (x : Binary64) : String :=
  if x.isFinite then String.ofList (layout.write x)
  else if x.isNaN then "NaN"
  else if x.isNegative then "-inf"
  else "inf"

/-- The exponent at the end of a numeral, absent or after `e`. -/
def exponentOfText? (cs : List Char) : Option Int :=
  match cs with
  | [] => some 0
  | c :: rest =>
    if c ≠ 'e' ∧ c ≠ 'E' then none
    else
      let (negative, digits) := match rest with
        | '-' :: ds => (true, ds)
        | '+' :: ds => (false, ds)
        | ds => (false, ds)
      if digits.isEmpty || !digits.all Char.isDigit then none
      else
        let n : Int := Decimal.natOfDigits digits
        some (if negative then -n else n)

/-- An unsigned numeral: digits with an optional point, at least one digit, then an optional
exponent. -/
def decimalOfText? (cs : List Char) : Option Decimal :=
  let whole := cs.takeWhile Char.isDigit
  let (fraction, rest) := match cs.dropWhile Char.isDigit with
    | '.' :: r => (r.takeWhile Char.isDigit, r.dropWhile Char.isDigit)
    | r => ([], r)
  if whole.isEmpty && fraction.isEmpty then none
  else (exponentOfText? rest).map fun e =>
    ⟨Decimal.natOfDigits (whole ++ fraction), e - fraction.length⟩

/-- A number as a user writes it: a numeral, or a word for infinity or for no number in any
letter case, after an optional sign. -/
def ofText? (s : String) : Option Binary64 :=
  let (negative, cs) := match s.toList with
    | '-' :: cs => (true, cs)
    | '+' :: cs => (false, cs)
    | cs => (false, cs)
  let word := String.ofList (cs.map Char.toLower)
  if word = "inf" ∨ word = "infinity" then some (infinity negative)
  else if word = "nan" then some (nan negative)
  else (decimalOfText? cs).map (·.toBinary64 negative)

end Binary64

end ReadoutControl
