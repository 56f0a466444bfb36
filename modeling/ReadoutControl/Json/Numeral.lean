import ReadoutControl.Number.Decimal

set_option autoImplicit false

/-!
The value of a JSON numeral that is no plain integer. The digits are gathered into 64 bits, those
for which there is no room being dropped, and the number nearest to them is scaled by a power of
ten. Both steps round, so the value need not be the number nearest to the numeral.
-/

namespace ReadoutControl.Json

/-- An unsigned numeral in its parts. -/
structure Numeral where
  whole : List Char
  /-- The digits after the point, of which there is at least one if there is a point. -/
  fraction : List Char
  exponent : Option Int

namespace Numeral

def ofText? (cs : List Char) : Option Numeral :=
  let whole := cs.takeWhile Char.isDigit
  let rest := cs.dropWhile Char.isDigit
  if whole.isEmpty || (whole.head? = some '0' && 1 < whole.length) then none
  else
    let (fraction, rest) := match rest with
      | '.' :: more => (some (more.takeWhile Char.isDigit), more.dropWhile Char.isDigit)
      | rest => (none, rest)
    if fraction.any (·.isEmpty) then none
    else (Binary64.exponentOfText? rest).map fun e =>
      ⟨whole, fraction.getD [], if rest.isEmpty then none else some e⟩

def isInteger (n : Numeral) : Bool := n.fraction.isEmpty && n.exponent.isNone

/-- Appends digits to a number as long as 64 bits hold it. The digits left over are told too. -/
def gather (n : Nat) : List Char → Nat × List Char
  | [] => (n, [])
  | c :: rest =>
    let next := 10 * n + Decimal.digitValue c
    if next < UInt64.size then gather next rest else (n, c :: rest)

/-- The gathered digits, and the power of ten they stand for. Digits of the fraction may still
find room where one of the whole part did not. -/
def gathered (n : Numeral) : Decimal :=
  let (whole, dropped) := gather 0 n.whole
  let (digits, unread) := gather whole n.fraction
  ⟨digits, dropped.length - (n.fraction.length - unread.length : Nat) + n.exponent.getD 0⟩

/-- A number is scaled by no larger power of ten at once. -/
def largestPower : Nat := 308

def powerOfTen (n : Nat) : Binary64 := Decimal.toBinary64 false ⟨1, n⟩

/-- Scales a finite number by a power of ten, unless the result is beyond all finite ones. -/
def scale? (x : Binary64) (exponent : Int) : Option Binary64 :=
  if x.magnitude = 0 then some x
  else if largestPower < exponent then none
  else if 0 ≤ exponent then
    let y := x * powerOfTen exponent.toNat
    if y.isFinite then some y else none
  else if -largestPower ≤ exponent then some (x / powerOfTen (-exponent).toNat)
  else scale? (x / powerOfTen largestPower) (exponent + largestPower)
termination_by (-exponent).toNat
decreasing_by simp only [largestPower] at *; omega

/-- The value of the numeral; there is none beyond the largest finite number. -/
def toBinary64? (n : Numeral) : Option Binary64 :=
  let d := n.gathered
  scale? (.ofNat d.digits) d.exponent

end Numeral

end ReadoutControl.Json
