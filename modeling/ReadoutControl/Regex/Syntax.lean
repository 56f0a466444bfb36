set_option autoImplicit false

/-!
Expressions as written: what the characters of an expression say before flags are taken into
account.
-/

namespace ReadoutControl.Regex

/-- A change of flags, in the order written; `false` turns a flag off. -/
abbrev FlagChange := List (Char × Bool)

/-- Classes that have a letter of their own. -/
inductive Shorthand where
  | digit
  | space
  | word
  deriving DecidableEq

/-- Classes of ASCII characters that have names. -/
inductive AsciiClass where
  | alnum
  | alpha
  | ascii
  | blank
  | cntrl
  | digit
  | graph
  | lower
  | print
  | punct
  | space
  | upper
  | word
  | xdigit
  deriving DecidableEq

/-- A character, and whether it was written as a two-digit code. -/
structure Literal where
  char : Char
  isByte : Bool
  deriving DecidableEq

inductive SetOp where
  | intersection
  | difference
  | symmetricDifference
  deriving DecidableEq

/-- A class of characters by a property of theirs. -/
inductive PropertyQuery where
  | letter (c : Char)
  | name (name : List Char)
  | value (property value : List Char) (equal : Bool)

/-- What stands between brackets. -/
inductive SetItem where
  | empty
  | literal (l : Literal)
  | range (low high : Literal)
  | ascii (negated : Bool) (name : AsciiClass)
  | shorthand (negated : Bool) (name : Shorthand)
  | property (negated : Bool) (query : PropertyQuery)
  | bracketed (negated : Bool) (item : SetItem)
  | union (items : List SetItem)
  | op (kind : SetOp) (a b : SetItem)

inductive Assertion where
  | lineStart
  | lineEnd
  | textStart
  | textEnd
  | boundary
  | notBoundary
  | wordStart
  | wordEnd
  | wordStartHalf
  | wordEndHalf
  deriving DecidableEq

inductive Ast where
  | empty
  | flags (change : FlagChange)
  | literal (l : Literal)
  | dot
  | assertion (a : Assertion)
  | shorthand (negated : Bool) (name : Shorthand)
  | property (negated : Bool) (query : PropertyQuery)
  | bracketed (negated : Bool) (item : SetItem)
  | repeated (item : Ast) (least : Nat) (most : Option Nat) (fewFirst : Bool)
  | group (change : FlagChange) (item : Ast) (remembers : Bool)
  | alternation (branches : List Ast)
  | concat (items : List Ast)
  deriving Inhabited

namespace SetItem

/-- How deep brackets, unions and operations nest. -/
def depth : SetItem → Nat
  | .bracketed _ item => item.depth + 1
  | .union items => depths items + 1
  | .op _ a b => max a.depth b.depth + 1
  | _ => 0
where
  depths : List SetItem → Nat
    | [] => 0
    | item :: rest => max item.depth (depths rest)

end SetItem

namespace Ast

/-- How deep the parts of an expression nest. -/
def depth : Ast → Nat
  | .bracketed _ item => item.depth + 1
  | .repeated item _ _ _ => item.depth + 1
  | .group _ item _ => item.depth + 1
  | .alternation branches => depths branches + 1
  | .concat items => depths items + 1
  | _ => 0
where
  depths : List Ast → Nat
    | [] => 0
    | item :: rest => max item.depth (depths rest)

/-- Expressions may nest this deep. -/
def maxDepth : Nat := 250

def ofItems : List Ast → Ast
  | [] => .empty
  | [item] => item
  | items => .concat items

def ofBranches : List Ast → Ast
  | [branch] => branch
  | branches => .alternation branches

/-- Whether a repetition may follow: there must be something to repeat. -/
def isRepeatable : Ast → Bool
  | .empty => false
  | .flags _ => false
  | _ => true

end Ast

end ReadoutControl.Regex
