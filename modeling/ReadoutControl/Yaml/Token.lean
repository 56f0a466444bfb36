import ReadoutControl.Yaml.Scalar

set_option autoImplicit false

/-!
The tokens of a YAML text. Block collections have tokens for their start and end, which come from
the indentation. A mapping key shows as such only at the colon after it, so every place where a
key may begin is remembered until then.
-/

namespace ReadoutControl.Yaml

inductive Token where
  | version (major minor : Nat)
  /-- Declares a handle for tags. -/
  | tagHandle (handle : List Char)
  | documentStart
  | documentEnd
  | blockSequence
  | blockMapping
  | blockEnd
  | flowSequence
  | flowSequenceEnd
  | flowMapping
  | flowMappingEnd
  | blockEntry
  | flowEntry
  | key
  | value
  | alias (name : List Char)
  | anchor (name : List Char)
  /-- A tag, known by its handle; a whole tag in angle brackets has none. -/
  | tag (handle : Option (List Char))
  | scalar (isPlain : Bool) (text : List Char)
  deriving DecidableEq

/-- A place where a mapping key may have begun. -/
structure KeyStart where
  /-- How many tokens stand before it. -/
  position : Nat
  index : Nat
  line : Nat
  column : Nat
  /-- Whether it must be a key, because it begins where the keys of its mapping do. -/
  required : Bool

namespace KeyStart

/-- A key ends on its line, before 1024 more bytes. -/
def reaches (k : KeyStart) (c : Cursor) : Bool :=
  k.line = c.line && c.index ≤ k.index + 1024

end KeyStart

/-- The tokens before a place, and what decides the next one. -/
structure Layout where
  cursor : Cursor
  tokens : Array Token
  /-- The columns of the open block collections, the innermost first. -/
  indents : List Nat
  /-- For the block context and each open flow collection, the innermost first, where a key may
  have begun. -/
  keys : List (Option KeyStart)
  keyAllowed : Bool

namespace Layout

def start (c : Cursor) : Layout := ⟨c, #[], [], [none], true⟩

def inFlow (l : Layout) : Bool := 1 < l.keys.length

def push (l : Layout) (t : Token) : Layout := { l with tokens := l.tokens.push t }

def indent? (l : Layout) : Option Nat := l.indents.head?

/-- Goes over an indicator and adds its token. -/
def take (l : Layout) (n : Nat) (t : Token) : Layout :=
  { l with cursor := l.cursor.skip n, tokens := l.tokens.push t }

def allowKey (l : Layout) (allowed : Bool) : Layout := { l with keyAllowed := allowed }

/-- Opens a block collection at a column right of the open ones; its token goes to a position
among the tokens. -/
def openBlock (l : Layout) (column position : Nat) (t : Token) : Layout :=
  if l.inFlow || l.indents.head?.any (column ≤ ·) then l
  else { l with indents := column :: l.indents, tokens := l.tokens.insertIdxIfInBounds position t }

/-- Closes the block collections right of a column, or all of them. -/
def closeBlocks (l : Layout) (column : Option Nat) : Layout :=
  if l.inFlow then l
  else
    let closed := l.indents.takeWhile fun i => column.all (· < i)
    { l with
      indents := l.indents.drop closed.length
      tokens := l.tokens ++ Array.replicate closed.length .blockEnd }

/-- Gives up the place where a key may have begun, unless it must be one. -/
def dropKey? (l : Layout) : Option Layout :=
  match l.keys with
  | [] => some l
  | key :: outer =>
    if key.any (·.required) then none else some { l with keys := none :: outer }

/-- Remembers that a key may begin here. -/
def saveKey? (l : Layout) : Option Layout :=
  if !l.keyAllowed then some l
  else l.dropKey?.map fun l =>
    let c := l.cursor
    let required := !l.inFlow && l.indent? == some c.column
    { l with keys := some ⟨l.tokens.size, c.index, c.line, c.column, required⟩ :: l.keys.tail }

/-- Goes over blanks, comments, line ends and byte order marks at the start of lines. Where a key
may begin a tab is no blank. -/
def skipGaps (l : Layout) : Layout :=
  go (l.cursor.rest.length + 1) l
where
  go : Nat → Layout → Layout
    | 0, l => l
    | fuel + 1, l =>
      let isSpace c := c = ' ' || (c = '\t' && (l.inFlow || !l.keyAllowed))
      let c := (l.cursor.skipMark.skipWhile isSpace).skipComment
      if c.atBreak then
        go fuel { l with cursor := c.skipBreak, keyAllowed := l.keyAllowed || !l.inFlow }
      else { l with cursor := c }

def isNameChar (c : Char) : Bool := c.isAlphanum || c = '_' || c = '-'

/-- The name of an anchor or alias, after its mark. -/
def name? (c : Cursor) : Option (List Char × Cursor) :=
  let name := c.rest.takeWhile isNameChar
  let after := c.rest.drop name.length
  if name.isEmpty then none
  else if separates after.head? ||
      after.head?.any (['?', ':', ',', ']', '\x7d', '%', '@', '\x60'].contains ·)
  then some (name, c.skip name.length)
  else none

def isTagChar (whole : Bool) (c : Char) : Bool :=
  isNameChar c || [';', '/', '?', ':', '@', '&', '=', '+', '$', '.', '!', '~', '*', '\'', '(', ')',
    '%'].contains c || (whole && [',', '[', ']'].contains c)

/-- Whether the escapes in a part of a tag spell well-formed characters. -/
def escapesValid (cs : List Char) : Bool :=
  go [] cs
where
  go (bytes : List UInt8) : List Char → Bool
    | '%' :: a :: b :: rest =>
      match hexValue? [a, b] with
      | some n => go (bytes ++ [UInt8.ofNat n]) rest
      | none => false
    | '%' :: _ => false
    | _ :: rest => decodes bytes && go [] rest
    | [] => decodes bytes
  decodes (bytes : List UInt8) : Bool := (String.fromUTF8? ⟨bytes.toArray⟩).isSome

/-- A tag, from its exclamation mark on. -/
def tag? (inFlow : Bool) (c : Cursor) : Option (Option (List Char) × Cursor) := do
  let (handle, after) ←
    if c.rest[1]? = some '<' then do
      let body := (c.rest.drop 2).takeWhile (isTagChar true)
      if body.isEmpty || !escapesValid body then none
      if (c.rest.drop (2 + body.length)).head? = some '>' then
        some (none, c.skip (body.length + 3))
      else none
    else do
      let word := (c.rest.drop 1).takeWhile isNameChar
      let named := (c.rest.drop (1 + word.length)).head? = some '!'
      let handle := if named then '!' :: word ++ ['!'] else ['!']
      let body := (c.rest.drop handle.length).takeWhile (isTagChar false)
      if (named && body.isEmpty) || !escapesValid body then none
      some (some handle, c.skip (handle.length + body.length))
  if separates after.rest.head? || (inFlow && after.rest.head? == some ',') then
    some (handle, after)
  else none

/-- A number of at most nine digits. -/
def number? (c : Cursor) : Option (Nat × Cursor) :=
  let digits := c.rest.takeWhile Char.isDigit
  if digits.isEmpty || 9 < digits.length then none
  else some (digits.foldl (fun n d => 10 * n + (d.toNat - 48)) 0, c.skip digits.length)

/-- A directive, from its percent sign to the end of its line. -/
def directive? (c : Cursor) : Option (Token × Cursor) := do
  let word := (c.rest.drop 1).takeWhile isNameChar
  let c := c.skip (1 + word.length)
  if word.isEmpty || !separates c.rest.head? then none
  let c := c.skipWhile isBlank
  let (token, c) ←
    if word = ['Y', 'A', 'M', 'L'] then do
      let (major, c) ← number? c
      if c.rest.head? ≠ some '.' then none
      let (minor, c) ← number? (c.skip 1)
      some (Token.version major minor, c)
    else if word = ['T', 'A', 'G'] then do
      if c.rest.head? ≠ some '!' then none
      let name := (c.rest.drop 1).takeWhile isNameChar
      let closed := (c.rest.drop (1 + name.length)).head? = some '!'
      if !closed && !name.isEmpty then none
      let handle := if closed then '!' :: name ++ ['!'] else ['!']
      let c := c.skip handle.length
      if !c.rest.head?.any isBlank then none
      let c := c.skipWhile isBlank
      let body := c.rest.takeWhile (isTagChar true)
      if body.isEmpty || !escapesValid body then none
      let c := c.skip body.length
      if !separates c.rest.head? then none
      some (Token.tagHandle handle, c)
    else none
  let c := (c.skipWhile isBlank).skipComment
  if c.rest.isEmpty || c.atBreak then some (token, c.skipBreak) else none

/-- A document mark or a directive closes all blocks. -/
def closeDocument? (l : Layout) : Option Layout :=
  (l.closeBlocks none).dropKey?.map (·.allowKey false)

def openFlow? (l : Layout) (t : Token) : Option Layout :=
  l.saveKey?.map fun l =>
    ({ l with keys := none :: l.keys }.allowKey true).take 1 t

def closeFlow? (l : Layout) (t : Token) : Option Layout :=
  l.dropKey?.map fun l =>
    let keys := match l.keys with
      | _ :: outer :: more => outer :: more
      | keys => keys
    ({ l with keys := keys }.allowKey false).take 1 t

def blockItem? (l : Layout) : Option Layout := do
  if !l.inFlow && !l.keyAllowed then none
  let l := l.openBlock l.cursor.column l.tokens.size .blockSequence
  return ((← l.dropKey?).allowKey true).take 1 .blockEntry

def key? (l : Layout) : Option Layout := do
  if !l.inFlow && !l.keyAllowed then none
  let l := l.openBlock l.cursor.column l.tokens.size .blockMapping
  return ((← l.dropKey?).allowKey (!l.inFlow)).take 1 .key

/-- A colon turns what began at the remembered place into a key. -/
def value? (l : Layout) : Option Layout :=
  match l.keys.head?.join with
  | some k =>
    if k.reaches l.cursor then
      let l := { l with
        tokens := l.tokens.insertIdxIfInBounds k.position .key
        keys := none :: l.keys.tail }
      some (((l.openBlock k.column k.position .blockMapping).allowKey false).take 1 .value)
    else if k.required then none
    else plainValue? { l with keys := none :: l.keys.tail }
  | none => plainValue? l
where
  plainValue? (l : Layout) : Option Layout :=
    if !l.inFlow && !l.keyAllowed then none
    else
      let l := l.openBlock l.cursor.column l.tokens.size .blockMapping
      some ((l.allowKey (!l.inFlow)).take 1 .value)

/-- A token whose text follows a mark of one character. -/
def named? (l : Layout) (token : List Char → Token) : Option Layout := do
  let l ← l.saveKey?
  let (name, c) ← name? (l.cursor.skip 1)
  return { l with cursor := c, keyAllowed := false }.push (token name)

def tagged? (l : Layout) : Option Layout := do
  let l ← l.saveKey?
  let (handle, c) ← tag? l.inFlow l.cursor
  return { l with cursor := c, keyAllowed := false }.push (.tag handle)

def quotedScalar? (l : Layout) (quote : Char) : Option Layout := do
  let l ← l.saveKey?
  let (text, c) ← quoted? quote (l.cursor.skip 1)
  return { l with cursor := c, keyAllowed := false }.push (.scalar false text)

def blockScalar? (l : Layout) (folds : Bool) : Option Layout := do
  let l ← l.dropKey?
  let (text, c) ← block? folds l.indent? (l.cursor.skip 1)
  return { l with cursor := c, keyAllowed := true }.push (.scalar false text)

/-- After a plain scalar that was followed by a line end a key may begin. -/
def plainScalar? (l : Layout) : Option Layout := do
  let l ← l.saveKey?
  let indent := match l.indent? with
    | some n => n + 1
    | none => 0
  let (text, gap, c) ← plain? l.inFlow indent l.cursor
  return { l with cursor := c, keyAllowed := gap.isBroken }.push (.scalar true text)

/-- Indicators that begin no plain scalar. -/
def reserved : List Char :=
  ['-', '?', ':', ',', '[', ']', '\x7b', '\x7d', '#', '&', '*', '!', '|', '>', '\'', '"', '%', '@',
    '\x60']

/-- Adds the token at the cursor, which stands at a character that is no gap. -/
def token? (l : Layout) (c : Char) : Option Layout :=
  let next := l.cursor.rest[1]?
  if l.cursor.column = 0 ∧ c = '%' then do
    let l ← l.closeDocument?
    let (token, cursor) ← directive? l.cursor
    return { l with cursor := cursor }.push token
  else if l.cursor.atRule '-' then l.closeDocument?.map (·.take 3 .documentStart)
  else if l.cursor.atRule '.' then l.closeDocument?.map (·.take 3 .documentEnd)
  else if c = '[' then l.openFlow? .flowSequence
  else if c = '\x7b' then l.openFlow? .flowMapping
  else if c = ']' then l.closeFlow? .flowSequenceEnd
  else if c = '\x7d' then l.closeFlow? .flowMappingEnd
  else if c = ',' then l.dropKey?.map fun l => (l.allowKey true).take 1 .flowEntry
  else if c = '-' ∧ separates next then l.blockItem?
  else if c = '?' ∧ (l.inFlow ∨ separates next) then l.key?
  else if c = ':' ∧ (l.inFlow ∨ separates next) then l.value?
  else if c = '*' then l.named? .alias
  else if c = '&' then l.named? .anchor
  else if c = '!' then l.tagged?
  else if c = '|' ∧ !l.inFlow then l.blockScalar? false
  else if c = '>' ∧ !l.inFlow then l.blockScalar? true
  else if c = '\'' ∨ c = '"' then l.quotedScalar? c
  else if (!isBlank c && !reserved.contains c) || (c == '-' && !next.any isBlank) ||
      (!l.inFlow && (c == '?' || c == ':')) then l.plainScalar?
  else none

/-- Whether a key that must end here or before has no colon. -/
def lacksColon (l : Layout) : Bool :=
  l.keys.any (·.any fun k => k.required && !k.reaches l.cursor)

/-- Adds tokens up to the end of the text. -/
def finish? (l : Layout) : Option Layout :=
  go (l.cursor.rest.length + 1) l
where
  go : Nat → Layout → Option Layout
    | 0, _ => none
    | fuel + 1, l =>
      if l.lacksColon then none
      else
        let l := l.skipGaps
        let l := l.closeBlocks (some l.cursor.column)
        match l.cursor.rest with
        | [] => (l.closeBlocks none).dropKey?
        | c :: _ => (l.token? c).bind (go fuel)

end Layout

/-- The tokens of a text. -/
def tokens? (text : List Char) : Option (List Token) :=
  if text.all isAllowed then
    (Layout.start (.ofText text)).finish?.map fun l => l.tokens.toList
  else none

end ReadoutControl.Yaml
