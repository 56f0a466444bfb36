set_option autoImplicit false

/-!
Numerals of a bounded range in any base up to sixteen.
-/

namespace ReadoutControl.Text

/-- The value of a digit in bases up to sixteen. -/
def digitValue? (base : Nat) (c : Char) : Option Nat :=
  let n := c.toNat
  let value :=
    if 48 ≤ n ∧ n ≤ 57 then some (n - 48)
    else if 65 ≤ n ∧ n ≤ 70 then some (n - 55)
    else if 97 ≤ n ∧ n ≤ 102 then some (n - 87)
    else none
  value.filter (· < base)

/-- Digits only, at least one. -/
def digits? (base : Nat) (cs : List Char) : Option Nat :=
  if cs.isEmpty then none
  else cs.foldlM (fun n c => (digitValue? base c).map (base * n + ·)) 0

/-- A natural number below a limit, with an optional plus sign. -/
def natural? (base limit : Nat) (cs : List Char) : Option Nat :=
  let body := match cs with
    | '+' :: rest => rest
    | cs => cs
  (digits? base body).filter (· < limit)

/-- A decimal integer from `low` to `high`, with an optional sign. -/
def integer? (low high : Int) (cs : List Char) : Option Int :=
  let value : Option Int := match cs with
    | '-' :: rest => (digits? 10 rest).map fun n => -(n : Int)
    | '+' :: rest => (digits? 10 rest).map Int.ofNat
    | cs => (digits? 10 cs).map Int.ofNat
  value.filter fun n => low ≤ n && n ≤ high

end ReadoutControl.Text
