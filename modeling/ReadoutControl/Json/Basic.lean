import ReadoutControl.Number.Binary64

set_option autoImplicit false

/-!
JSON values. Integers are kept apart from floating-point numbers, and an object keeps its fields
in the order they were given; `Json.sorted` puts the keys of all objects in order.
-/

namespace ReadoutControl

inductive Json where
  | null
  | bool (b : Bool)
  | int (n : Int)
  | float (x : Binary64)
  | str (s : String)
  | arr (items : List Json)
  | obj (fields : List (String × Json))
  deriving Inhabited

namespace Json

/-- Infinities and what is no number have no numeral, so they are null. -/
def ofBinary64 (x : Binary64) : Json := if x.isFinite then .float x else .null

def ofNat (n : Nat) : Json := .int n

/-- A field that is left out when it has no value. -/
def optionalField (name : String) (value : Option Json) : List (String × Json) :=
  match value with
  | some v => [(name, v)]
  | none => []

/-- Puts a field in its place among fields in key order; an equal key is replaced. -/
def insertField {α : Type} (key : String) (value : α) :
    List (String × α) → List (String × α)
  | [] => [(key, value)]
  | (k, v) :: rest =>
    if key < k then (key, value) :: (k, v) :: rest
    else if key = k then (key, value) :: rest
    else (k, v) :: insertField key value rest

/-- The fields in key order, the last of equal keys standing. -/
def sortFields {α : Type} (fields : List (String × α)) : List (String × α) :=
  fields.foldl (fun sorted field => insertField field.1 field.2 sorted) []

mutual

/-- The value with the keys of every object in order. -/
def sorted : Json → Json
  | .arr items => .arr (sortedItems items)
  | .obj fields => .obj (sortFields (sortedFields fields))
  | value => value

def sortedItems : List Json → List Json
  | [] => []
  | item :: rest => sorted item :: sortedItems rest

def sortedFields : List (String × Json) → List (String × Json)
  | [] => []
  | (key, value) :: rest => (key, sorted value) :: sortedFields rest

end

end Json

end ReadoutControl
