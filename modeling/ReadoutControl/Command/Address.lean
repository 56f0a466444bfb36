import ReadoutControl.Json.Record
import ReadoutControl.Regex.Compile

set_option autoImplicit false

/-!
Addresses of modules: one by its name, or all whose whole name a pattern matches. Both are written
as bare text, and the empty pattern addresses every module.
-/

namespace ReadoutControl

/-- The regular expression of a pattern. The empty one is found in every name and needs no
anchors. -/
def Regex.ofPattern? (expr : String) : Option Regex :=
  if expr.isEmpty then some .empty else Regex.ofText? (Regex.anchored expr.toList)

/-- A pattern with the regular expression it compiles to. -/
structure NamePattern where
  expr : String
  regex : Regex
  regex_eq : Regex.ofPattern? expr = some regex

namespace NamePattern

theorem eq_of_expr_eq {p q : NamePattern} (h : p.expr = q.expr) : p = q := by
  obtain ⟨e, r, hr⟩ := p
  obtain ⟨e', r', hr'⟩ := q
  obtain rfl : e = e' := h
  obtain rfl : r = r' := Option.some.inj (hr.symm.trans hr')
  rfl

instance : DecidableEq NamePattern := fun p q =>
  if h : p.expr = q.expr then .isTrue (eq_of_expr_eq h)
  else .isFalse fun same => h (congrArg expr same)

def ofText? (expr : String) : Option NamePattern :=
  match h : Regex.ofPattern? expr with
  | some regex => some ⟨expr, regex, h⟩
  | none => none

/-- The pattern that addresses every module. -/
def any : NamePattern := ⟨"", .empty, rfl⟩

def matchesName (p : NamePattern) (name : String) : Bool := p.regex.isMatch name

end NamePattern

inductive Address where
  | exact (name : String)
  | pattern (p : NamePattern)
  deriving DecidableEq

namespace Address

def any : Address := .pattern .any

def pattern? (expr : String) : Option Address := (NamePattern.ofText? expr).map .pattern

/-- Characters that make an address a pattern. -/
def metaChars : List Char :=
  ['.', '*', '+', '?', '(', ')', '[', ']', '\x7b', '\x7d', '|', '^', '$', '\\']

def looksLikePattern (text : String) : Bool :=
  text.isEmpty || text.toList.any metaChars.contains

/-- The address that a text means. -/
def ofText? (text : String) : Option Address :=
  if looksLikePattern text then pattern? text else some (.exact text)

def text : Address → String
  | exact name => name
  | pattern p => p.expr

def isExact : Address → Bool
  | exact _ => true
  | pattern _ => false

def matchesName : Address → String → Bool
  | exact exactName, name => exactName == name
  | pattern p, name => p.matchesName name

def toJson (a : Address) : Json := .str a.text

def read? (node : Json.Node) : Option Address := node.text?.bind ofText?

end Address

end ReadoutControl
