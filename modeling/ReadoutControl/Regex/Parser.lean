import ReadoutControl.Regex.Scanner
import ReadoutControl.Unicode.Alphanumeric

set_option autoImplicit false

/-!
Reading an expression as it is written. Open groups and brackets wait on a stack, so the reader
goes over the text once; the fuel of its loops is the length of the text, of which every step
takes some.
-/

namespace ReadoutControl.Regex

namespace SetItem

/-- A bracket that has not been closed: what stood before it in the outer one, or the left side of
an operation. -/
inductive Open where
  | bracket (outer : List SetItem) (negated : Bool)
  | operand (kind : SetOp) (left : SetItem)

/-- The items of a bracket, given in reverse order, as one. -/
def ofItems : List SetItem → SetItem
  | [] => .empty
  | [item] => item
  | items => .union items.reverse

/-- Ends the right side of an operation, if there is one. -/
def closeOperand (stack : List Open) (right : SetItem) : SetItem × List Open :=
  match stack with
  | .operand kind left :: outer => (.op kind left right, outer)
  | stack => (right, stack)

def ofPrimitive? : Primitive → Option SetItem
  | .literal l => some (.literal l)
  | .shorthand negated name => some (.shorthand negated name)
  | .property negated query => some (.property negated query)
  | .dot => none
  | .assertion _ => none

def asciiClasses : List (String × AsciiClass) :=
  [("alnum", .alnum), ("alpha", .alpha), ("ascii", .ascii), ("blank", .blank),
   ("cntrl", .cntrl), ("digit", .digit), ("graph", .graph), ("lower", .lower),
   ("print", .print), ("punct", .punct), ("space", .space), ("upper", .upper),
   ("word", .word), ("xdigit", .xdigit)]

/-- Reads a named class such as `[:alpha:]` after its bracket. -/
def asciiClass? (cs : List Char) : Option (SetItem × List Char) :=
  match cs with
  | ':' :: rest =>
    let (negated, rest) := match rest with
      | '^' :: more => (true, more)
      | rest => (false, rest)
    match rest.dropWhile (· ≠ ':') with
    | ':' :: ']' :: after =>
      (asciiClasses.lookup (String.ofList (rest.takeWhile (· ≠ ':')))).map fun name =>
        (.ascii negated name, after)
    | _ => none
  | _ => none

/-- Hyphens at the start of a bracket stand for themselves. -/
def leadingHyphens? (free : Bool) : Nat → List SetItem → List Char →
    Option (List SetItem × List Char)
  | fuel + 1, items, '-' :: rest =>
    (advance? free rest).bind (leadingHyphens? free fuel (.literal ⟨'-', false⟩ :: items))
  | _, items, cs => some (items, cs)

/-- Reads the start of a bracket after the bracket itself. -/
def opening? (free : Bool) (cs : List Char) : Option (Bool × List SetItem × List Char) := do
  let cs ← advance? free cs
  let (negated, cs) ← match cs with
    | '^' :: rest => (advance? free rest).map (true, ·)
    | cs => some (false, cs)
  let (items, cs) ← leadingHyphens? free cs.length [] cs
  match items, cs with
  | [], ']' :: rest =>
    let rest ← advance? free rest
    return (negated, [.literal ⟨']', false⟩], rest)
  | items, cs => return (negated, items, cs)

def itemPrimitive? (free : Bool) : List Char → Option (Primitive × List Char)
  | [] => none
  | '\\' :: rest => escape? free rest
  | c :: rest => some (.literal ⟨c, false⟩, rest)

/-- The next character that counts after a hyphen. -/
def peek? (free : Bool) (cs : List Char) : Option Char :=
  if free then
    match cs.dropWhile Text.isBlank with
    | '#' :: more => (more.dropWhile Text.isBlank).head?
    | rest => rest.head?
  else cs.head?

/-- Reads one item or range of a bracket. -/
def range? (free : Bool) (cs : List Char) : Option (SetItem × List Char) := do
  let (first, rest) ← itemPrimitive? free cs
  match dropFree free rest with
  | [] => none
  | '-' :: more =>
    if peek? free more = some ']' ∨ peek? free more = some '-' then
      return (← ofPrimitive? first, '-' :: more)
    else
      let more ← advance? free more
      let (last, after) ← itemPrimitive? free more
      match first, last with
      | .literal low, .literal high =>
        if low.char.toNat ≤ high.char.toNat then return (.range low high, after) else none
      | _, _ => none
  | rest => return (← ofPrimitive? first, rest)

/-- Reads brackets up to the end of the outermost one. -/
def brackets? (free : Bool) : Nat → List Open → List SetItem → List Char →
    Option (Bool × SetItem × List Char)
  | 0, _, _, _ => none
  | fuel + 1, stack, items, cs =>
    let operation (kind : SetOp) (rest : List Char) :=
      let (left, outer) := closeOperand stack (ofItems items)
      brackets? free fuel (.operand kind left :: outer) [] rest
    match dropFree free cs with
    | [] => none
    | '[' :: rest =>
      match asciiClass? rest with
      | some (item, after) => brackets? free fuel stack (item :: items) after
      | none =>
        (opening? free rest).bind fun (negated, inner, after) =>
          brackets? free fuel (.bracket items negated :: stack) inner after
    | ']' :: rest =>
      match closeOperand stack (ofItems items) with
      | (item, [.bracket _ negated]) => some (negated, item, rest)
      | (item, .bracket outer negated :: stack) =>
        brackets? free fuel stack (.bracketed negated item :: outer) rest
      | _ => none
    | '&' :: '&' :: rest => operation .intersection rest
    | '-' :: '-' :: rest => operation .difference rest
    | '~' :: '~' :: rest => operation .symmetricDifference rest
    | cs => (range? free cs).bind fun (item, after) =>
        brackets? free fuel stack (item :: items) after

/-- Reads a bracketed set after its first bracket. -/
def bracketed? (free : Bool) (cs : List Char) : Option (Bool × SetItem × List Char) :=
  (opening? free cs).bind fun (negated, items, after) =>
    brackets? free (after.length + 1) [.bracket [] negated] items after

end SetItem

namespace Ast

/-- A group that has not been closed: what stood before it, its flags, whether what it matches is
remembered and whether blanks meant nothing outside of it. -/
structure Group where
  items : List Ast
  branches : List Ast
  change : FlagChange
  remembers : Bool
  free : Bool

/-- How far an expression has been read. Items and branches are in reverse order. -/
structure Progress where
  groups : List Group
  items : List Ast
  branches : List Ast
  free : Bool
  names : List (List Char)

namespace Progress

def start : Progress := ⟨[], [], [], false, []⟩

def branch (p : Progress) : Ast := .ofItems p.items.reverse

def whole (p : Progress) : Ast := .ofBranches (p.branch :: p.branches).reverse

def add (p : Progress) (item : Ast) : Progress := { p with items := item :: p.items }

def openGroup (p : Progress) (change : FlagChange) (remembers : Bool) : Progress :=
  { p with
    groups := ⟨p.items, p.branches, change, remembers, p.free⟩ :: p.groups
    items := []
    branches := []
    free := (change.lookup 'x').getD p.free }

def closeGroup? (p : Progress) : Option Progress :=
  match p.groups with
  | [] => none
  | g :: outer =>
    some { p with
      groups := outer
      items := .group g.change p.whole g.remembers :: g.items
      branches := g.branches
      free := g.free }

/-- Repeats the last item, as the mark says that may follow. -/
def repeatLast? (p : Progress) (least : Nat) (most : Option Nat) (cs : List Char) :
    Option (Progress × List Char) :=
  match p.items with
  | [] => none
  | item :: rest =>
    if item.isRepeatable then
      let (few, after) := fewFirst cs
      some ({ p with items := .repeated item least most few :: rest }, after)
    else none

end Progress

def isNameChar (first : Bool) (c : Char) : Bool :=
  c = '_' || Unicode.alphabeticRanges.contains c.toNat ||
    (!first && (c = '.' || c = '[' || c = ']' || Unicode.numericRanges.contains c.toNat))

/-- Reads the name of a group up to its closing angle bracket. -/
def groupName? (cs : List Char) : Option (List Char × List Char) :=
  match cs.dropWhile (· ≠ '>'), cs.takeWhile (· ≠ '>') with
  | _ :: after, c :: more =>
    if isNameChar true c && more.all (isNameChar false) then some (c :: more, after) else none
  | _, _ => none

def isLookAround : List Char → Bool
  | '?' :: '=' :: _ => true
  | '?' :: '!' :: _ => true
  | '?' :: '<' :: '=' :: _ => true
  | '?' :: '<' :: '!' :: _ => true
  | _ => false

/-- Opens a group after its parenthesis, or takes in a change of flags. -/
def openParen? (p : Progress) (cs : List Char) : Option (Progress × List Char) :=
  let cs := dropFree p.free cs
  let named (rest : List Char) := (groupName? rest).bind fun (name, after) =>
    if p.names.contains name then none
    else some ({ p.openGroup [] true with names := name :: p.names }, after)
  if isLookAround cs then none
  else match cs with
    | '?' :: 'P' :: '<' :: rest => named rest
    | '?' :: '<' :: rest => named rest
    | '?' :: rest =>
      (flags? [] false false rest).bind fun (change, _, after) =>
        match after with
        | ')' :: after =>
          if change.isEmpty then none
          else some ({ p.add (.flags change) with free := (change.lookup 'x').getD p.free }, after)
        | ':' :: after => some (p.openGroup change false, after)
        | _ => none
    | cs => some (p.openGroup [] true, cs)

def ofPrimitive : Primitive → Ast
  | .literal l => .literal l
  | .dot => .dot
  | .assertion a => .assertion a
  | .shorthand negated name => .shorthand negated name
  | .property negated query => .property negated query

/-- Takes one part from the front of a text that is not empty. -/
def step? (p : Progress) (cs : List Char) : Option (Progress × List Char) :=
  match cs with
  | '(' :: rest => openParen? p rest
  | ')' :: rest => p.closeGroup?.map (·, rest)
  | '|' :: rest => some ({ p with items := [], branches := p.branch :: p.branches }, rest)
  | '[' :: rest =>
    (SetItem.bracketed? p.free rest).map fun (negated, item, after) =>
      (p.add (.bracketed negated item), after)
  | '?' :: rest => p.repeatLast? 0 (some 1) rest
  | '*' :: rest => p.repeatLast? 0 none rest
  | '+' :: rest => p.repeatLast? 1 none rest
  | '\x7b' :: rest => (bounds? p.free rest).bind fun ((least, most), after) =>
      p.repeatLast? least most (dropFree p.free after)
  | cs => (primitive? p.free cs).map fun (item, after) => (p.add (ofPrimitive item), after)

def run? : Nat → Progress → List Char → Option Ast
  | 0, _, _ => none
  | fuel + 1, p, cs =>
    match dropFree p.free cs with
    | [] => if p.groups.isEmpty then some p.whole else none
    | rest => (step? p rest).bind fun (next, after) => run? fuel next after

/-- Reads a whole expression. -/
def parse? (cs : List Char) : Option Ast :=
  (run? (cs.length + 1) .start cs).filter fun ast => ast.depth ≤ maxDepth

end Ast

end ReadoutControl.Regex
