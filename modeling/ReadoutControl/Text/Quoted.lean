import ReadoutControl.Unicode.Visible

set_option autoImplicit false

/-!
Quoted text for messages. A quoted text shows every character that would be invisible or would
join its neighbour by an escape.
-/

namespace ReadoutControl.Text

/-- Whether a character leaves a mark of its own; of the blanks only the space counts. -/
def isVisible (c : Char) : Bool := c = ' ' || Unicode.visibleRanges.contains c.toNat

/-- Whether a character is drawn onto the one before it. -/
def isCombining (c : Char) : Bool := Unicode.combiningRanges.contains c.toNat

def codeEscape (c : Char) : List Char :=
  ['\\', 'u', '\x7b'] ++ Nat.toDigits 16 c.toNat ++ ['\x7d']

def quoteChar (c : Char) : List Char :=
  match c with
  | '"' => ['\\', '"']
  | '\\' => ['\\', '\\']
  | '\n' => ['\\', 'n']
  | '\r' => ['\\', 'r']
  | '\t' => ['\\', 't']
  | '\x00' => ['\\', '0']
  | c =>
    if 32 ≤ c.toNat ∧ c.toNat < 127 then [c]
    else if isCombining c || !isVisible c then codeEscape c
    else [c]

def quote (s : String) : String :=
  String.ofList ('"' :: (s.toList.flatMap quoteChar ++ ['"']))

/-- Quoted texts in brackets. -/
def quoteList (items : List String) : String :=
  "[" ++ ", ".intercalate (items.map quote) ++ "]"

end ReadoutControl.Text
