set_option autoImplicit false

/-!
Floating-point numbers of 64 bits, known by their bit pattern. A finite number is
`significand * 2 ^ exponent` up to sign, and `roundRatio` takes a quotient of natural numbers to
the nearest such number, a tie going to the even pattern. Products and quotients are the exact
ones, rounded.
-/

namespace ReadoutControl

structure Binary64 where
  bits : UInt64
  deriving DecidableEq, Inhabited

namespace Binary64

/-- The bit that negative numbers have. -/
def signBit : Nat := 0x8000000000000000

/-- How many patterns without sign have the same exponent. -/
def binadeSize : Nat := 0x10000000000000

/-- The pattern of infinity, one above that of the largest finite number. -/
def infinityBits : Nat := 2047 * binadeSize

def ofMagnitude (negative : Bool) (magnitude : Nat) : Binary64 :=
  ⟨UInt64.ofNat (magnitude + if negative then signBit else 0)⟩

def isNegative (x : Binary64) : Bool := signBit ≤ x.bits.toNat

/-- The pattern without its sign. -/
def magnitude (x : Binary64) : Nat := x.bits.toNat % signBit

def isFinite (x : Binary64) : Bool := x.magnitude < infinityBits

def isNaN (x : Binary64) : Bool := infinityBits < x.magnitude

def infinity (negative : Bool) : Binary64 := ofMagnitude negative infinityBits

def nan (negative : Bool) : Binary64 := ofMagnitude negative (infinityBits + binadeSize / 2)

/-- The significand of a pattern without sign; the patterns of the first binade are subnormal. -/
def significandOf (magnitude : Nat) : Nat :=
  if magnitude < binadeSize then magnitude else magnitude % binadeSize + binadeSize

def exponentOf (magnitude : Nat) : Int :=
  if magnitude < binadeSize then -1074 else (magnitude / binadeSize : Nat) - 1075

/-- The absolute value of a finite pattern, as a quotient. -/
def ratioOf (magnitude : Nat) : Nat × Nat :=
  match exponentOf magnitude with
  | .ofNat e => (significandOf magnitude * Nat.pow 2 e, 1)
  | .negSucc e => (significandOf magnitude, Nat.pow 2 (e + 1))

/-- The nearest natural number to a quotient; a half goes to the even neighbour. -/
def divRound (num den : Nat) : Nat :=
  let quotient := num / den
  let twice := 2 * (num % den)
  if twice < den then quotient
  else if den < twice then quotient + 1
  else quotient + quotient % 2

/-- The power of two of the last place kept when `num / den` is rounded. -/
def lastPlace (num den : Nat) : Int :=
  let guess : Int := (Nat.log2 num : Int) - Nat.log2 den - 52
  let scaled := match guess with
    | .ofNat e => decide (den * Nat.pow 2 e * binadeSize ≤ num)
    | .negSucc e => decide (den * binadeSize ≤ num * Nat.pow 2 (e + 1))
  max (if scaled then guess else guess - 1) (-1074)

/-- The pattern nearest to `num / den`, which is infinity beyond the largest finite number. -/
def roundRatio (num den : Nat) : Nat :=
  if num = 0 then 0
  else
    let place := lastPlace num den
    let significand := match place with
      | .ofNat e => divRound num (den * Nat.pow 2 e)
      | .negSucc e => divRound (num * Nat.pow 2 (e + 1)) den
    min ((place + 1074).toNat * binadeSize + significand) infinityBits

def ofNat (n : Nat) : Binary64 := ofMagnitude false (roundRatio n 1)

def ofInt (n : Int) : Binary64 := ofMagnitude (n < 0) (roundRatio n.natAbs 1)

/-- The nearest number to the quotient of two values that are given as quotients. -/
def ofQuotient (negative : Bool) (a b : Nat × Nat) : Binary64 :=
  ofMagnitude negative (roundRatio (a.1 * b.2) (a.2 * b.1))

protected def mul (x y : Binary64) : Binary64 :=
  let negative := x.isNegative != y.isNegative
  if x.isNaN || y.isNaN then nan negative
  else if x.isFinite && y.isFinite then
    let (num, den) := ratioOf y.magnitude
    ofQuotient negative (ratioOf x.magnitude) (den, num)
  else if x.magnitude = 0 ∨ y.magnitude = 0 then nan negative
  else infinity negative

protected def div (x y : Binary64) : Binary64 :=
  let negative := x.isNegative != y.isNegative
  if x.isNaN || y.isNaN then nan negative
  else if x.isFinite then
    if !y.isFinite then ofMagnitude negative 0
    else if y.magnitude ≠ 0 then
      ofQuotient negative (ratioOf x.magnitude) (ratioOf y.magnitude)
    else if x.magnitude = 0 then nan negative
    else infinity negative
  else if y.isFinite then infinity negative
  else nan negative

instance : Mul Binary64 := ⟨Binary64.mul⟩

instance : Div Binary64 := ⟨Binary64.div⟩

/-- The largest integer not above a finite number. -/
def floorOf (negative : Bool) (magnitude : Nat) : Int :=
  let (num, den) := ratioOf magnitude
  if negative then -((num + den - 1) / den : Nat) else (num / den : Nat)

/-- The floor as a signed 64-bit count: what lies outside the range goes to its nearer end, and
what is no number to zero. -/
def floorTicks (x : Binary64) : Int :=
  if x.isNaN then 0
  else
    let floor := if x.isFinite then floorOf x.isNegative x.magnitude
      else if x.isNegative then Int64.minValue.toInt else Int64.maxValue.toInt
    max Int64.minValue.toInt (min Int64.maxValue.toInt floor)

end Binary64

end ReadoutControl
