import ReadoutControl.Json.Basic
import ReadoutControl.Number.Decimal

set_option autoImplicit false

/-!
The text of JSON values: compact, or with every item on a line of its own.
-/

namespace ReadoutControl.Json

/-- Two digits of a code below 256. -/
def hexPair (n : Nat) : List Char := [Nat.digitChar (n / 16), Nat.digitChar (n % 16)]

/-- Quotes, backslashes and controls are escaped, nothing else is. -/
def escapeChar (c : Char) : List Char :=
  match c with
  | '"' => ['\\', '"']
  | '\\' => ['\\', '\\']
  | '\x08' => ['\\', 'b']
  | '\x0c' => ['\\', 'f']
  | '\n' => ['\\', 'n']
  | '\r' => ['\\', 'r']
  | '\t' => ['\\', 't']
  | c => if c.toNat < 32 then ['\\', 'u', '0', '0'] ++ hexPair c.toNat else [c]

def quoted (s : String) : List Char := '"' :: (s.toList.flatMap escapeChar ++ ['"'])

def intText (n : Int) : List Char :=
  if n < 0 then '-' :: Decimal.digitChars n.natAbs else Decimal.digitChars n.natAbs

def floatText (x : Binary64) : List Char := DecimalLayout.document.write x

def newline (indent depth : Nat) : List Char := '\n' :: List.replicate (indent * depth) ' '

mutual

/-- The text of a value that begins at the given depth, with `indent` blanks per level. -/
def pretty (indent depth : Nat) : Json → List Char
  | .null => ['n', 'u', 'l', 'l']
  | .bool true => ['t', 'r', 'u', 'e']
  | .bool false => ['f', 'a', 'l', 's', 'e']
  | .int n => intText n
  | .float x => floatText x
  | .str s => quoted s
  | .arr [] => ['[', ']']
  | .arr (item :: rest) =>
    '[' :: (newline indent (depth + 1) ++ (pretty indent (depth + 1) item ++
      prettyItems indent depth rest))
  | .obj [] => ['\x7b', '\x7d']
  | .obj ((key, value) :: rest) =>
    '\x7b' :: (newline indent (depth + 1) ++ (quoted key ++ (':' :: ' ' ::
      (pretty indent (depth + 1) value ++ prettyFields indent depth rest))))

/-- The items after the first one, and the end of their array. -/
def prettyItems (indent depth : Nat) : List Json → List Char
  | [] => newline indent depth ++ [']']
  | item :: rest =>
    ',' :: (newline indent (depth + 1) ++ (pretty indent (depth + 1) item ++
      prettyItems indent depth rest))

/-- The fields after the first one, and the end of their object. -/
def prettyFields (indent depth : Nat) : List (String × Json) → List Char
  | [] => newline indent depth ++ ['\x7d']
  | (key, value) :: rest =>
    ',' :: (newline indent (depth + 1) ++ (quoted key ++ (':' :: ' ' ::
      (pretty indent (depth + 1) value ++ prettyFields indent depth rest))))

end

mutual

/-- The text of a value on one line without blanks. -/
def compact : Json → List Char
  | .arr [] => ['[', ']']
  | .arr (item :: rest) => '[' :: (compact item ++ compactItems rest)
  | .obj [] => ['\x7b', '\x7d']
  | .obj ((key, value) :: rest) =>
    '\x7b' :: (quoted key ++ (':' :: (compact value ++ compactFields rest)))
  | .null => ['n', 'u', 'l', 'l']
  | .bool true => ['t', 'r', 'u', 'e']
  | .bool false => ['f', 'a', 'l', 's', 'e']
  | .int n => intText n
  | .float x => floatText x
  | .str s => quoted s

def compactItems : List Json → List Char
  | [] => [']']
  | item :: rest => ',' :: (compact item ++ compactItems rest)

def compactFields : List (String × Json) → List Char
  | [] => ['\x7d']
  | (key, value) :: rest =>
    ',' :: (quoted key ++ (':' :: (compact value ++ compactFields rest)))

end

/-- A document: keys in order, four blanks per level. -/
def document (value : Json) : String := String.ofList (value.sorted.pretty 4 0)

/-- A report: fields as declared, two blanks per level. -/
def report (value : Json) : String := String.ofList (value.pretty 2 0)

end ReadoutControl.Json
