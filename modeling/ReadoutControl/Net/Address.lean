set_option autoImplicit false

/-!
Internet addresses and the text they are shown as.
-/

namespace ReadoutControl

inductive IpAddress where
  | v4 (octets : Vector UInt8 4)
  | v6 (octets : Vector UInt8 16)
  deriving DecidableEq

namespace IpAddress

def octets : IpAddress → List UInt8
  | v4 os => os.toList
  | v6 os => os.toList

def isUnspecified (a : IpAddress) : Bool := a.octets.all (· = 0)

/-- Octets in decimal with points between them. -/
def dotted (os : List UInt8) : String := ".".intercalate (os.map toString)

/-- The groups of two octets. -/
def groups : List UInt8 → List Nat
  | a :: b :: rest => (256 * a.toNat + b.toNat) :: groups rest
  | _ => []

def hexText (n : Nat) : String := String.ofList (Nat.toDigits 16 n)

def groupText (gs : List Nat) : String := ":".intercalate (gs.map hexText)

/-- Where the first longest run of zero groups begins, and how long it is. -/
def longestZeros (gs : List Nat) : Nat × Nat :=
  let runs := (List.range gs.length).map fun i => (i, ((gs.drop i).takeWhile (· = 0)).length)
  runs.foldl (fun best run => if best.2 < run.2 then run else best) (0, 0)

/-- The first longest run of at least two zero groups is left out. Version 4 addresses that are
mapped into version 6 keep their points. -/
def text : IpAddress → String
  | v4 os => dotted os.toList
  | v6 os =>
    let os := os.toList
    if os.take 12 = List.replicate 10 0 ++ [0xFF, 0xFF] then "::ffff:" ++ dotted (os.drop 12)
    else
      let gs := groups os
      let (start, length) := longestZeros gs
      if length < 2 then groupText gs
      else groupText (gs.take start) ++ "::" ++ groupText (gs.drop (start + length))

end IpAddress

/-- One end of a connection. -/
structure Endpoint where
  address : IpAddress
  port : UInt16
  deriving DecidableEq

namespace Endpoint

def text (e : Endpoint) : String :=
  match e.address with
  | .v4 _ => s!"{e.address.text}:{e.port}"
  | .v6 _ => s!"[{e.address.text}]:{e.port}"

end Endpoint

end ReadoutControl
