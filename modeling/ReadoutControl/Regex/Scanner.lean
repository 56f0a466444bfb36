import ReadoutControl.Regex.Syntax
import ReadoutControl.Text.Blank
import ReadoutControl.Text.Numeral

set_option autoImplicit false

/-!
The small parts of an expression: blanks and comments, escapes, codes of characters, flags and
counts. Each reader takes what it reads from the front of the text and returns the rest. With
`free` set, blanks and comments between the parts mean nothing.
-/

namespace ReadoutControl.Regex

/-- What follows leading blanks and comments; a comment runs to the end of its line. -/
def dropFree (free : Bool) (cs : List Char) : List Char :=
  if free then go false cs else cs
where
  go (inComment : Bool) : List Char → List Char
    | [] => []
    | c :: rest =>
      if inComment then go (c != '\n') rest
      else if Text.isBlank c then go false rest
      else if c = '#' then go true rest
      else c :: rest

theorem dropFree_go_suffix (inComment : Bool) (cs : List Char) :
    dropFree.go inComment cs <:+ cs := by
  induction cs generalizing inComment with
  | nil => exact List.suffix_refl _
  | cons c rest ih =>
    simp only [dropFree.go]
    split
    · exact (ih _).trans (List.suffix_cons ..)
    · split
      · exact (ih _).trans (List.suffix_cons ..)
      · split
        · exact (ih _).trans (List.suffix_cons ..)
        · exact List.suffix_refl _

theorem dropFree_suffix (free : Bool) (cs : List Char) : dropFree free cs <:+ cs := by
  cases free with
  | false => exact List.suffix_refl _
  | true => exact dropFree_go_suffix false cs

/-- The rest after the first character, which must not be all. -/
def advance? (free : Bool) (cs : List Char) : Option (List Char) :=
  match dropFree free cs with
  | [] => none
  | rest => some rest

def isMeta (c : Char) : Bool :=
  ['\\', '.', '+', '*', '?', '(', ')', '|', '[', ']', '\x7b', '\x7d', '^', '$', '#', '&', '-',
    '~'].contains c

/-- Whether a backslash before the character makes it stand for itself. -/
def isEscapable (c : Char) : Bool :=
  isMeta c || (c.toNat < 128 && !c.isAlphanum && c ≠ '<' && c ≠ '>')

def charOfCode? (code : Nat) : Option Char :=
  if h : code.isValidChar then some (Char.ofNatAux code h) else none

/-- Reads `count` hexadecimal digits. -/
def hexDigits? (free : Bool) : Nat → List Char → Option (List Char × List Char)
  | 0, cs => some ([], cs)
  | count + 1, cs =>
    match cs with
    | [] => none
    | c :: rest =>
      if (Text.digitValue? 16 c).isNone then none
      else
        let rest := dropFree free rest
        (hexDigits? free count rest).map fun (ds, after) => (c :: ds, after)

/-- Reads hexadecimal digits up to a closing brace. -/
def bracedHex? (free : Bool) (cs : List Char) : Option (List Char × List Char) :=
  let digits := (dropSpaces cs).takeWhile (· ≠ '\x7d')
  match (dropSpaces cs).dropWhile (· ≠ '\x7d') with
  | _ :: after =>
    if digits.all fun c => (Text.digitValue? 16 c).isSome then some (digits, dropFree free after)
    else none
  | [] => none
where
  /-- The text up to the brace without what means nothing in it. -/
  dropSpaces (cs : List Char) : List Char :=
    if free then squeeze false cs else cs
  squeeze (inComment : Bool) : List Char → List Char
    | [] => []
    | c :: rest =>
      if inComment then squeeze (c != '\n') rest
      else if c = '\x7d' then c :: rest
      else if Text.isBlank c then squeeze false rest
      else if c = '#' then squeeze true rest
      else c :: squeeze false rest

/-- The character of a code of fixed length or in braces, after the letter that begins it. -/
def codeLiteral? (free : Bool) (letter : Char) (cs : List Char) :
    Option (Literal × List Char) := do
  let cs ← advance? free cs
  let (digits, after, braced) ← match cs with
    | '\x7b' :: rest => (bracedHex? free rest).map fun (ds, after) => (ds, after, true)
    | cs =>
      let count := if letter = 'x' then 2 else if letter = 'u' then 4 else 8
      (hexDigits? free count cs).map fun (ds, after) => (ds, after, false)
  let code ← Text.digits? 16 digits
  let c ← charOfCode? code
  return (⟨c, letter = 'x' && !braced⟩, after)

/-- Splits at the first place where a text occurs. -/
def splitOnce? (mark : List Char) : List Char → Option (List Char × List Char)
  | [] => none
  | c :: rest =>
    if mark.isPrefixOf (c :: rest) then some ([], (c :: rest).drop mark.length)
    else (splitOnce? mark rest).map fun (before, after) => (c :: before, after)

def queryOfName (name : List Char) : PropertyQuery :=
  match splitOnce? ['!', '='] name with
  | some (p, v) => .value p v false
  | none =>
    match splitOnce? [':'] name with
    | some (p, v) => .value p v true
    | none =>
      match splitOnce? ['='] name with
      | some (p, v) => .value p v true
      | none => .name name

/-- Reads the property that follows `\p`. -/
def property? (free : Bool) (cs : List Char) : Option (PropertyQuery × List Char) := do
  let cs ← advance? free cs
  match cs with
  | '\x7b' :: rest =>
    let rest := bracedHex?.dropSpaces free rest
    match rest.dropWhile (· ≠ '\x7d') with
    | _ :: after => return (queryOfName (rest.takeWhile (· ≠ '\x7d')), after)
    | [] => none
  | '\\' :: _ => none
  | c :: rest => return (.letter c, dropFree free rest)
  | [] => none

/-- What an escape or a plain character can be. -/
inductive Primitive where
  | literal (l : Literal)
  | dot
  | assertion (a : Assertion)
  | shorthand (negated : Bool) (name : Shorthand)
  | property (negated : Bool) (query : PropertyQuery)

def isBoundaryNameChar (c : Char) : Bool := c.isAlpha || c = '-'

/-- Reads the braces after a word boundary. Braces that begin with anything but a letter or a
hyphen are left for a count. -/
def boundaryName? (free : Bool) (cs : List Char) : Option (Assertion × List Char) :=
  match cs with
  | '\x7b' :: rest =>
    match dropFree free rest with
    | [] => some (.boundary, cs)
    | c :: more =>
      if !isBoundaryNameChar c then some (.boundary, cs)
      else
        let text := bracedHex?.dropSpaces free (c :: more)
        match text.dropWhile isBoundaryNameChar with
        | '\x7d' :: after =>
          let name := String.ofList (text.takeWhile isBoundaryNameChar)
          if name = "start" then some (.wordStart, after)
          else if name = "end" then some (.wordEnd, after)
          else if name = "start-half" then some (.wordStartHalf, after)
          else if name = "end-half" then some (.wordEndHalf, after)
          else none
        | _ => none
  | cs => some (.boundary, cs)

/-- Reads what follows a backslash. -/
def escape? (free : Bool) : List Char → Option (Primitive × List Char)
  | [] => none
  | c :: rest =>
    let plain (c : Char) := some (Primitive.literal ⟨c, false⟩, rest)
    if c.isDigit then none
    else if c = 'x' ∨ c = 'u' ∨ c = 'U' then
      (codeLiteral? free c rest).map fun (l, after) => (.literal l, after)
    else if c = 'p' ∨ c = 'P' then
      (property? free rest).map fun (q, after) => (.property (c = 'P') q, after)
    else if isEscapable c then plain c
    else match c with
      | 'd' => some (.shorthand false .digit, rest)
      | 'D' => some (.shorthand true .digit, rest)
      | 's' => some (.shorthand false .space, rest)
      | 'S' => some (.shorthand true .space, rest)
      | 'w' => some (.shorthand false .word, rest)
      | 'W' => some (.shorthand true .word, rest)
      | 'a' => plain '\x07'
      | 'f' => plain '\x0c'
      | 't' => plain '\t'
      | 'n' => plain '\n'
      | 'r' => plain '\r'
      | 'v' => plain '\x0b'
      | 'A' => some (.assertion .textStart, rest)
      | 'z' => some (.assertion .textEnd, rest)
      | 'b' => (boundaryName? free rest).map fun (a, after) => (.assertion a, after)
      | 'B' => some (.assertion .notBoundary, rest)
      | '<' => some (.assertion .wordStart, rest)
      | '>' => some (.assertion .wordEnd, rest)
      | _ => none

/-- Reads a part outside brackets that is no operator. -/
def primitive? (free : Bool) : List Char → Option (Primitive × List Char)
  | [] => none
  | '\\' :: rest => escape? free rest
  | '.' :: rest => some (.dot, rest)
  | '^' :: rest => some (.assertion .lineStart, rest)
  | '$' :: rest => some (.assertion .lineEnd, rest)
  | c :: rest => some (.literal ⟨c, false⟩, rest)

/-- Reads a count of 32 bits, blanks around which mean nothing. -/
def count? (free : Bool) (cs : List Char) : Option (Option Nat × List Char) :=
  let (digits, rest) := digitRun (cs.dropWhile Text.isBlank)
  let rest := rest.dropWhile Text.isBlank
  if digits.isEmpty then some (none, rest)
  else (Text.digits? 10 digits).bind fun n => if n < UInt32.size then some (some n, rest) else none
where
  /-- The digits at the front of a text, with what means nothing dropped after each. -/
  digitRun : List Char → List Char × List Char
    | [] => ([], [])
    | c :: rest =>
      if c.isDigit then
        let (ds, after) := digitRun (dropFree free rest)
        (c :: ds, after)
      else ([], c :: rest)
  termination_by cs => cs.length
  decreasing_by exact Nat.lt_succ_of_le (dropFree_suffix free rest).length_le

/-- Reads the bounds of a repetition after its opening brace. -/
def bounds? (free : Bool) (cs : List Char) : Option ((Nat × Option Nat) × List Char) := do
  let cs ← advance? free cs
  let (least, cs) ← count? free cs
  match cs with
  | ',' :: rest =>
    let rest ← advance? free rest
    match rest with
    | '\x7d' :: after => return ((← least, none), after)
    | rest =>
      let low ← least
      let (high, rest) ← count? free rest
      let high ← high
      match rest with
      | '\x7d' :: after => if low ≤ high then some ((low, some high), after) else none
      | _ => none
  | '\x7d' :: after =>
    let n ← least
    return ((n, some n), after)
  | _ => none

/-- Reads the mark that makes a repetition try few times first. -/
def fewFirst (cs : List Char) : Bool × List Char :=
  match cs with
  | '?' :: rest => (true, rest)
  | cs => (false, cs)

/-- Reads flags up to a colon or a closing parenthesis, which is left. -/
def flags? (change : FlagChange) (negated dangling : Bool) :
    List Char → Option (FlagChange × Bool × List Char)
  | [] => none
  | c :: rest =>
    if c = ':' ∨ c = ')' then
      if dangling then none else some (change.reverse, negated, c :: rest)
    else if c = '-' then
      if negated then none else flags? change true true rest
    else if ['i', 'm', 's', 'U', 'u', 'R', 'x'].contains c then
      if change.any (·.1 == c) then none
      else flags? ((c, !negated) :: change) negated false rest
    else none

end ReadoutControl.Regex
