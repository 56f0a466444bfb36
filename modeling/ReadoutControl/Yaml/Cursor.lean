import ReadoutControl.Unicode.Utf8

set_option autoImplicit false

/-!
A place in a YAML text, known by what is left of the text and by its line and column.
-/

namespace ReadoutControl.Yaml

/-- Characters that end a line. -/
def isBreak (c : Char) : Bool :=
  c = '\n' || c = '\r' || c.toNat = 0x85 || c.toNat = 0x2028 || c.toNat = 0x2029

def isBlank (c : Char) : Bool := c = ' ' || c = '\t'

def isGap (c : Char) : Bool := isBlank c || isBreak c

/-- Whether a character, or the end of the text, separates what is on its two sides. -/
def separates : Option Char → Bool
  | some c => isGap c
  | none => true

/-- Characters that a YAML text may hold. -/
def isAllowed (c : Char) : Bool :=
  let n := c.toNat
  n = 9 || n = 10 || n = 13 || (0x20 ≤ n && n ≤ 0x7E) || n = 0x85 || (0xA0 ≤ n && n ≤ 0xD7FF) ||
    (0xE000 ≤ n && n ≤ 0xFFFD) || 0x10000 ≤ n

def byteOrderMark : Char := '\ufeff'

structure Cursor where
  rest : List Char
  /-- The bytes before this place. -/
  index : Nat
  line : Nat
  column : Nat

namespace Cursor

def ofText (cs : List Char) : Cursor := ⟨cs, 0, 0, 0⟩

/-- Goes over characters of the same line. -/
def skip (c : Cursor) (n : Nat) : Cursor :=
  ⟨c.rest.drop n, c.index + Unicode.Utf8.byteCount (c.rest.take n), c.line, c.column + n⟩

def skipWhile (c : Cursor) (p : Char → Bool) : Cursor :=
  c.skip (c.rest.takeWhile p).length

/-- Goes over a line end, if there is one, and gives it as text: a line feed for all line ends but
the separators of lines and paragraphs. -/
def takeBreak (c : Cursor) : List Char × Cursor :=
  let next (n : Nat) : Cursor :=
    ⟨c.rest.drop n, c.index + Unicode.Utf8.byteCount (c.rest.take n), c.line + 1, 0⟩
  match c.rest with
  | '\r' :: '\n' :: _ => (['\n'], next 2)
  | b :: _ =>
    if !isBreak b then ([], c)
    else if b.toNat = 0x2028 ∨ b.toNat = 0x2029 then ([b], next 1)
    else (['\n'], next 1)
  | [] => ([], c)

def skipBreak (c : Cursor) : Cursor := c.takeBreak.2

/-- Goes over a byte order mark at the start of a line, where it takes a column. -/
def skipMark (c : Cursor) : Cursor :=
  if c.column = 0 ∧ c.rest.head? = some byteOrderMark then c.skip 1 else c

def skipComment (c : Cursor) : Cursor :=
  if c.rest.head? = some '#' then c.skipWhile (!isBreak ·) else c

def atBreak (c : Cursor) : Bool := c.rest.head?.any isBreak

/-- Whether a line of three such characters begins here. -/
def atRule (c : Cursor) (mark : Char) : Bool :=
  c.column = 0 && c.rest.take 3 == [mark, mark, mark] && separates c.rest[3]?

/-- Whether the document starts or ends here. -/
def atDocumentMark (c : Cursor) : Bool := c.atRule '-' || c.atRule '.'

end Cursor

end ReadoutControl.Yaml
