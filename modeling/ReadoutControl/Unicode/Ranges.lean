set_option autoImplicit false

/-!
Sets of code points as increasing lists of ranges, and finite maps from code points to lists of
code points, both written as text in hexadecimal.
-/

namespace ReadoutControl.Unicode

def hexDigit (c : Char) : Nat :=
  if c.isDigit then c.toNat - '0'.toNat else c.toNat - 'A'.toNat + 10

/-- Splits at a separator; there is one piece more than separators. -/
def pieces (separator : Char) : List Char → List (List Char)
  | [] => [[]]
  | c :: rest =>
    if c = separator then [] :: pieces separator rest
    else match pieces separator rest with
      | piece :: others => (c :: piece) :: others
      | [] => [[c]]

/-- The words of a text, parted by any number of blanks and line ends. -/
def words (text : String) : List (List Char) :=
  (pieces ' ' (text.toList.map fun c => if c = '\n' then ' ' else c)).filter (!·.isEmpty)

def ofHex (cs : List Char) : Nat := cs.foldl (fun n c => 16 * n + hexDigit c) 0

/-- Ranges with both ends included, in increasing order and apart from each other. -/
structure CodeRanges where
  ranges : Array (Nat × Nat)
  deriving DecidableEq

namespace CodeRanges

/-- Reads ranges such as `41-5A AA`. -/
def ofText (text : String) : CodeRanges where
  ranges := ((words text).map fun piece =>
    match pieces '-' piece with
    | [low, high] => (ofHex low, ofHex high)
    | _ => (ofHex piece, ofHex piece)).toArray

/-- Bisects the ranges from `low` up to but not including `high`. -/
def containsBetween (s : CodeRanges) (code low high : Nat) : Bool :=
  if _bounded : low < high then
    let middle := (low + high) / 2
    match s.ranges[middle]? with
    | none => false
    | some (first, last) =>
      if code < first then containsBetween s code low middle
      else if last < code then containsBetween s code (middle + 1) high
      else true
  else false
termination_by high - low
decreasing_by all_goals omega

def contains (s : CodeRanges) (code : Nat) : Bool :=
  s.containsBetween code 0 s.ranges.size

end CodeRanges

/-- Entries in increasing order of their keys. -/
structure CodeMap where
  entries : Array (Nat × List Nat)

namespace CodeMap

/-- Reads entries such as `DF:53,53`. -/
def ofText (text : String) : CodeMap where
  entries := ((words text).map fun piece =>
    match pieces ':' piece with
    | [key, values] => (ofHex key, (pieces ',' values).map ofHex)
    | _ => (0, [])).toArray

def getBetween (m : CodeMap) (code low high : Nat) : List Nat :=
  if _bounded : low < high then
    let middle := (low + high) / 2
    match m.entries[middle]? with
    | none => []
    | some (key, values) =>
      if code < key then getBetween m code low middle
      else if key < code then getBetween m code (middle + 1) high
      else values
  else []
termination_by high - low
decreasing_by all_goals omega

/-- The values of a code point, none if it is no key. -/
def get (m : CodeMap) (code : Nat) : List Nat := m.getBetween code 0 m.entries.size

end CodeMap

end ReadoutControl.Unicode
