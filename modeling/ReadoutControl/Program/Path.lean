import ReadoutControl.Text.Blank

set_option autoImplicit false

/-!
Paths as they are written: names with slashes between them.
-/

namespace ReadoutControl

structure Path where
  /-- The pieces between slashes; an absolute path begins with an empty one. -/
  pieces : List String
  deriving DecidableEq

namespace Path

def ofText (text : String) : Path :=
  ⟨(Text.splitAt (· = '/') text.toList).map String.ofList⟩

def text (p : Path) : String :=
  match p.pieces with
  | [""] => "/"
  | pieces => "/".intercalate pieces

def isAbsolute (p : Path) : Bool := p.pieces.head? = some ""

/-- The names on the way, with the points that stay at a directory or lead out of it. -/
def names (p : Path) : List String := p.pieces.filter (· ≠ "")

def endsInSlash (p : Path) : Bool := p.pieces.getLast? = some "" && 1 < p.pieces.length

/-- Drops pieces at the end that go nowhere, all but the first. -/
def trimmed : List String → List String
  | [] => []
  | first :: rest => first :: (rest.reverse.dropWhile fun piece => piece = "" ∨ piece = ".").reverse

/-- The path to the directory of a file. A path of one name has none. -/
def parent? (p : Path) : Option Path :=
  match trimmed p.pieces with
  | [] => none
  | [_] => none
  | pieces => some ⟨trimmed pieces.dropLast⟩

end Path

end ReadoutControl
