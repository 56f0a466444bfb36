set_option autoImplicit false

/-!
Blank characters, and how text falls into lines and fields.
-/

namespace ReadoutControl.Text

/-- White space in any script. -/
def isBlank (c : Char) : Bool :=
  let n := c.toNat
  (9 ≤ n && n ≤ 13) || n = 0x20 || n = 0x85 || n = 0xA0 || n = 0x1680 ||
    (0x2000 ≤ n && n ≤ 0x200A) || n = 0x2028 || n = 0x2029 || n = 0x202F || n = 0x205F ||
    n = 0x3000

/-- Splits at every character of a class; there is one piece more than such characters. -/
def splitAt (separates : Char → Bool) : List Char → List (List Char)
  | [] => [[]]
  | c :: rest =>
    if separates c then [] :: splitAt separates rest
    else match splitAt separates rest with
      | piece :: others => (c :: piece) :: others
      | [] => [[c]]

/-- The runs of characters that are not blank. -/
def fields (cs : List Char) : List (List Char) :=
  (splitAt isBlank cs).filter (!·.isEmpty)

/-- What a line end leaves of its line: a carriage return before it belongs to it. -/
def dropReturn (line : List Char) : List Char :=
  if line.getLast? = some '\r' then line.dropLast else line

/-- The lines of a text, in which the last need not be ended. -/
def lines (cs : List Char) : List (List Char) :=
  let pieces := splitAt (· = '\n') cs
  pieces.dropLast.map dropReturn ++ pieces.getLast?.toList.filter (!·.isEmpty)

end ReadoutControl.Text
