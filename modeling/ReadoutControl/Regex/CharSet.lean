import ReadoutControl.Unicode.Algebra
import ReadoutControl.Unicode.CaseClass

set_option autoImplicit false

/-!
Sets of characters, closed under the Boolean operations and under change of case.
-/

namespace ReadoutControl.Regex

abbrev CharSet := Unicode.CodeRanges

namespace CharSet

def has (s : CharSet) (c : Char) : Bool := s.contains c.toNat

def single (c : Char) : CharSet := .between c.toNat c.toNat

def all : CharSet := .between 0 0x10FFFF

def ascii : CharSet := .between 0 0x7F

/-- The union of ranges given by their ends. -/
def ofRanges (ranges : List (Char × Char)) : CharSet :=
  .unions (ranges.map fun (low, high) => .between low.toNat high.toNat)

/-- With every character all that differ from it in case only. -/
def caseless (s : CharSet) : CharSet :=
  s.union (.ofList (Unicode.CodeRanges.join (Unicode.caseClasses.entries.toList.filterMap
    fun (code, others) => if others.any s.contains then some (code, code) else none)))

/-- A character and all that differ from it in case only. -/
def caselessSingle (c : Char) : CharSet :=
  .unions ((c.toNat :: Unicode.caseVariants c.toNat).map fun code => .between code code)

/-- As `caseless`, for the letters of ASCII. -/
def asciiCaseless (s : CharSet) : CharSet :=
  let letters (low high other : Nat) : CharSet :=
    .ofList (((s.inter (.between low high)).toList).map fun (first, last) =>
      (first + other - low, last + other - low))
  (s.union (letters 65 90 97)).union (letters 97 122 65)

/-- Whether all members are ASCII. -/
def isAscii (s : CharSet) : Bool := s.toList.all fun range => range.2 < 0x80

/-- The only member of a set that has just one. -/
def only? (s : CharSet) : Option Char :=
  match s.toList with
  | [(low, high)] => if low = high then some (Char.ofNat low) else none
  | _ => none

end CharSet

end ReadoutControl.Regex
