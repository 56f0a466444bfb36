import ReadoutControl.Unicode.Ranges

set_option autoImplicit false

/-!
Boolean operations on sets of characters. The codes from D800 to DFFF stand for no character, so the
code after D7FF is E000.
-/

namespace ReadoutControl.Unicode

/-- The code of the next character. -/
def succCode (code : Nat) : Nat := if code = 0xD7FF then 0xE000 else code + 1

/-- The code of the character before. -/
def predCode (code : Nat) : Nat := if code = 0xE000 then 0xD7FF else code - 1

namespace CodeRanges

def ofList (ranges : List (Nat × Nat)) : CodeRanges := ⟨ranges.toArray⟩

def toList (s : CodeRanges) : List (Nat × Nat) := s.ranges.toList

def isEmpty (s : CodeRanges) : Bool := s.ranges.isEmpty

def size (s : CodeRanges) : Nat := s.ranges.size

def empty : CodeRanges := ⟨#[]⟩

/-- The codes from one to another. -/
def between (low high : Nat) : CodeRanges := ⟨#[(min low high, max low high)]⟩

/-- Two lists of ranges as one, in increasing order of their first ends. -/
def interleave : List (Nat × Nat) → List (Nat × Nat) → List (Nat × Nat)
  | [], bs => bs
  | as, [] => as
  | a :: as, b :: bs =>
    if a.1 ≤ b.1 then a :: interleave as (b :: bs) else b :: interleave (a :: as) bs

/-- Joins ranges that overlap or touch with the range before them. -/
def joinTo (range : Nat × Nat) : List (Nat × Nat) → List (Nat × Nat)
  | [] => [range]
  | next :: rest =>
    if next.1 ≤ range.2 + 1 then joinTo (range.1, max range.2 next.2) rest
    else range :: joinTo next rest

def join : List (Nat × Nat) → List (Nat × Nat)
  | [] => []
  | range :: rest => joinTo range rest

def union (s t : CodeRanges) : CodeRanges := .ofList (join (interleave s.toList t.toList))

def unions (sets : List CodeRanges) : CodeRanges := sets.foldr union empty

def interLists : List (Nat × Nat) → List (Nat × Nat) → List (Nat × Nat)
  | [], _ => []
  | _, [] => []
  | a :: as, b :: bs =>
    let low := max a.1 b.1
    let high := min a.2 b.2
    let rest := if a.2 < b.2 then interLists as (b :: bs) else interLists (a :: as) bs
    if low ≤ high then (low, high) :: rest else rest
termination_by as bs => as.length + bs.length

def inter (s t : CodeRanges) : CodeRanges := .ofList (interLists s.toList t.toList)

def withoutLists : List (Nat × Nat) → List (Nat × Nat) → List (Nat × Nat)
  | [], _ => []
  | as, [] => as
  | a :: as, b :: bs =>
    if b.2 < a.1 then withoutLists (a :: as) bs
    else if a.2 < b.1 then a :: withoutLists as (b :: bs)
    else
      let rest :=
        if b.2 < a.2 then withoutLists ((succCode b.2, a.2) :: as) bs
        else withoutLists as (b :: bs)
      if a.1 < b.1 then (a.1, predCode b.1) :: rest else rest
termination_by as bs => as.length + bs.length

/-- The members of the first set that the second lacks. -/
def without (s t : CodeRanges) : CodeRanges := .ofList (withoutLists s.toList t.toList)

/-- The members of one of the sets but not of both. -/
def symmDiff (s t : CodeRanges) : CodeRanges := (s.union t).without (s.inter t)

/-- The range between two others, given by the ends that face each other. Where no character is
between them, as at the codes that stand for none, its ends change places. -/
def gap (high low : Nat) : Nat × Nat :=
  let first := succCode high
  let last := predCode low
  (min first last, max first last)

/-- The gaps that follow a range which ends in `high`. -/
def gapsAfter (high : Nat) : List (Nat × Nat) → List (Nat × Nat)
  | [] => if high < 0x10FFFF then [(succCode high, 0x10FFFF)] else []
  | range :: rest => gap high range.1 :: gapsAfter range.2 rest

/-- The characters that are not in the set. -/
def compl (s : CodeRanges) : CodeRanges :=
  match s.toList with
  | [] => between 0 0x10FFFF
  | range :: rest =>
    let gaps := gapsAfter range.2 rest
    .ofList (if 0 < range.1 then (0, predCode range.1) :: gaps else gaps)

end CodeRanges

end ReadoutControl.Unicode
