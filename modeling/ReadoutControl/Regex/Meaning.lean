import ReadoutControl.Regex.Basic
import ReadoutControl.Regex.Syntax
import ReadoutControl.Unicode.Lookup

set_option autoImplicit false

/-!
The regular expression that an expression as written stands for. Flags hold from where they are
set to the end of their group, across its branches.
-/

namespace ReadoutControl.Regex

/-- The flags that change what an expression means. -/
structure Flags where
  caseless : Bool
  multiLine : Bool
  dotAll : Bool
  crlf : Bool
  fewFirst : Bool
  unicode : Bool

namespace Flags

def standard : Flags := ⟨false, false, false, false, false, true⟩

def set (f : Flags) : Char × Bool → Flags
  | ('i', on) => { f with caseless := on }
  | ('m', on) => { f with multiLine := on }
  | ('s', on) => { f with dotAll := on }
  | ('R', on) => { f with crlf := on }
  | ('U', on) => { f with fewFirst := on }
  | ('u', on) => { f with unicode := on }
  | _ => f

def change (f : Flags) (change : FlagChange) : Flags := change.foldl set f

end Flags

namespace CharSet

/-- A set that holds single bytes: those beyond ASCII are no text. -/
def asciiOnly? (s : CharSet) : Option CharSet :=
  if (s.inter (.between 0x80 0xFF)).isEmpty then some (s.inter ascii) else none

def fold (f : Flags) (s : CharSet) : CharSet :=
  if f.caseless then
    if f.unicode then s.caseless else s.asciiCaseless
  else s

/-- Applies case folding, then negation. -/
def finish? (f : Flags) (negated : Bool) (s : CharSet) : Option CharSet :=
  let folded := fold f s
  let result := if negated then folded.compl else folded
  if f.unicode then some result else asciiOnly? result

/-- What is in no category. -/
def unassigned : CharSet := (Unicode.CodeRanges.unions (Unicode.categoryRanges.map (·.2))).compl

/-- A general category by its loose name. -/
def category? (name : String) : Option CharSet :=
  if name = "any" then some all
  else if name = "ascii" then some ascii
  else if name = "assigned" then some unassigned.compl
  else if name = "cn" ∨ name = "unassigned" then some unassigned
  else if name = "c" ∨ name = "other" then
    some (.unions (unassigned :: Unicode.categories ["Cc", "Cf", "Co", "Cs"]))
  else (Unicode.categoryTables? name).map .unions

/-- A property that is named alone. Three names of categories are names of properties too, and
mean the category. -/
def named? (name : String) : Option CharSet :=
  let property := if ["cf", "sc", "lc"].contains name then none
    else Unicode.propertyTable? name
  match property with
  | some ranges => some ranges
  | .none =>
    match category? name with
    | some set => some set
    | .none => Unicode.scriptTable? name

def valued? (property value : String) : Option CharSet :=
  if ["gc", "generalcategory"].contains property then category? value
  else if ["sc", "script"].contains property then Unicode.scriptTable? value
  else if ["scx", "scriptextensions"].contains property then Unicode.scriptExtensionTable? value
  else if ["gcb", "graphemeclusterbreak"].contains property then
    Unicode.clusterBreakTable? value
  else if ["wb", "wordbreak"].contains property then Unicode.wordBreakTable? value
  else if ["sb", "sentencebreak"].contains property then Unicode.sentenceBreakTable? value
  else if property = "age" then (Unicode.ageTables? value).map .unions
  else none

/-- The set of a property query; whether it is negated once more is told beside it. -/
def query? : PropertyQuery → Option (CharSet × Bool)
  | .letter c => (named? (Unicode.looseName [c])).map (·, false)
  | .name name => (named? (Unicode.looseName name)).map (·, false)
  | .value property value equal =>
    (valued? (Unicode.looseName property) (Unicode.looseName value)).map (·, !equal)

def property? (f : Flags) (negated : Bool) (query : PropertyQuery) : Option CharSet :=
  if !f.unicode then none
  else (query? query).bind fun (set, flip) => finish? f (negated != flip) set

def space : CharSet := .ofList
  [(9, 13), (0x20, 0x20), (0x85, 0x85), (0xA0, 0xA0), (0x1680, 0x1680), (0x2000, 0x200A),
   (0x2028, 0x2029), (0x202F, 0x202F), (0x205F, 0x205F), (0x3000, 0x3000)]

def digit : CharSet := .unions (Unicode.categories ["Nd"])

def shorthand? (f : Flags) (negated : Bool) (name : Shorthand) : Option CharSet :=
  let set :=
    if f.unicode then
      match name with
      | .digit => digit
      | .space => space
      | .word => wordChars
    else
      match name with
      | .digit => ofRanges [('0', '9')]
      | .space => ofRanges [('\t', '\r'), (' ', ' ')]
      | .word => asciiWordChars
  let result := if negated then set.compl else set
  if f.unicode then some result else asciiOnly? result

def ofAsciiClass : AsciiClass → CharSet
  | .alnum => ofRanges [('0', '9'), ('A', 'Z'), ('a', 'z')]
  | .alpha => ofRanges [('A', 'Z'), ('a', 'z')]
  | .ascii => ascii
  | .blank => ofRanges [('\t', '\t'), (' ', ' ')]
  | .cntrl => ofRanges [('\x00', '\x1f'), ('\x7f', '\x7f')]
  | .digit => ofRanges [('0', '9')]
  | .graph => ofRanges [('!', '~')]
  | .lower => ofRanges [('a', 'z')]
  | .print => ofRanges [(' ', '~')]
  | .punct => ofRanges [('!', '/'), (':', '@'), ('[', '\x60'), ('\x7b', '~')]
  | .space => ofRanges [('\t', '\r'), (' ', ' ')]
  | .upper => ofRanges [('A', 'Z')]
  | .word => asciiWordChars
  | .xdigit => ofRanges [('0', '9'), ('A', 'F'), ('a', 'f')]

/-- Whether a character may stand in a set under these flags. -/
def admits (f : Flags) (l : Literal) : Bool := f.unicode || l.char.toNat < 128

def ofSetOp (kind : SetOp) (a b : CharSet) : CharSet :=
  match kind with
  | .intersection => a.inter b
  | .difference => a.without b
  | .symmetricDifference => a.symmDiff b

/-- The set of what stands between brackets. -/
def ofItem? (f : Flags) : SetItem → Option CharSet
  | .empty => some .empty
  | .literal l => if admits f l then some (single l.char) else none
  | .range low high =>
    if admits f low && admits f high then some (.between low.char.toNat high.char.toNat)
    else none
  | .ascii negated name => finish? f negated (ofAsciiClass name)
  | .shorthand negated name => shorthand? f negated name
  | .property negated query => property? f negated query
  | .bracketed negated item => (ofItem? f item).bind (finish? f negated)
  | .union items => (ofItems? items).map .unions
  | .op kind a b =>
    (ofItem? f a).bind fun left => (ofItem? f b).map fun right =>
      ofSetOp kind (fold f left) (fold f right)
where
  ofItems? : List SetItem → Option (List CharSet)
    | [] => some []
    | item :: rest => (ofItem? f item).bind fun set => (ofItems? rest).map (set :: ·)

end CharSet

/-- A character under flags. Beyond ASCII a character has no case unless Unicode counts, and then
it may not be given by its byte. -/
def ofLiteral? (f : Flags) (l : Literal) : Option Regex :=
  if !f.unicode && l.isByte && 128 ≤ l.char.toNat then none
  else if f.caseless && f.unicode then some (.chars (CharSet.caselessSingle l.char))
  else some (.chars (CharSet.fold f (CharSet.single l.char)))

def ofDot? (f : Flags) : Option Regex :=
  if !f.unicode then none
  else if f.dotAll then some (.chars .all)
  else if f.crlf then
    some (.chars (CharSet.ofRanges [('\n', '\n'), ('\r', '\r')]).compl)
  else some (.chars (CharSet.single '\n').compl)

def ofAssertion (f : Flags) (a : Assertion) : Regex :=
  let word := if f.unicode then wordChars else asciiWordChars
  .look <| match a with
    | .lineStart =>
      if !f.multiLine then .textStart else if f.crlf then .lineStartCR else .lineStart
    | .lineEnd => if !f.multiLine then .textEnd else if f.crlf then .lineEndCR else .lineEnd
    | .textStart => .textStart
    | .textEnd => .textEnd
    | .boundary => .boundary word
    | .notBoundary => .notBoundary word
    | .wordStart => .wordStart word
    | .wordEnd => .wordEnd word
    | .wordStartHalf => .wordStartHalf word
    | .wordEndHalf => .wordEndHalf word

mutual

/-- The meaning under given flags, and the flags that hold after it. -/
def ofAst? (f : Flags) : Ast → Option (Regex × Flags)
  | .empty => some (.empty, f)
  | .flags change => some (.empty, f.change change)
  | .literal l => (ofLiteral? f l).map (·, f)
  | .dot => (ofDot? f).map (·, f)
  | .assertion a => some (ofAssertion f a, f)
  | .shorthand negated name => (CharSet.shorthand? f negated name).map fun set => (.chars set, f)
  | .property negated query =>
    (CharSet.property? f negated query).map fun set => (.chars set, f)
  | .bracketed negated item =>
    ((CharSet.ofItem? f item).bind (CharSet.finish? f negated)).map fun set => (.chars set, f)
  | .repeated item least most few =>
    (ofAst? f item).map fun (r, after) => (.rep r least most (few != after.fewFirst), after)
  | .group change item remembers =>
    (ofAst? (f.change change) item).map fun (r, _) => (.group r remembers, f)
  | .alternation branches => (ofAsts? f branches).map fun (rs, after) => (oneOf rs, after)
  | .concat items => (ofAsts? f items).map fun (rs, after) => (concat rs, after)

def ofAsts? (f : Flags) : List Ast → Option (List Regex × Flags)
  | [] => some ([], f)
  | ast :: rest =>
    (ofAst? f ast).bind fun (r, between) =>
      (ofAsts? between rest).map fun (rs, after) => (r :: rs, after)

end

end ReadoutControl.Regex
