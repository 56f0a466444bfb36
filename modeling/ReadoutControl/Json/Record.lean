import ReadoutControl.Json.Node

set_option autoImplicit false

/-!
Typed reading of JSON trees. A record is an object, whose unknown fields are skipped, or an array
of its fields in declared order.
-/

namespace ReadoutControl.Json.Node

def text? : Node → Option String
  | .str s => some s
  | _ => none

def bool? : Node → Option Bool
  | .bool b => some b
  | _ => none

def int? : Node → Option Int
  | .int n => some n
  | _ => none

def uint32? (node : Node) : Option UInt32 :=
  node.int?.bind fun n =>
    if 0 ≤ n ∧ n < UInt32.size then some (UInt32.ofNat n.toNat) else none

def uint64? (node : Node) : Option UInt64 :=
  node.int?.bind fun n =>
    if 0 ≤ n ∧ n < UInt64.size then some (UInt64.ofNat n.toNat) else none

def int64? (node : Node) : Option Int64 :=
  node.int?.bind fun n =>
    if Int64.minValue.toInt ≤ n ∧ n ≤ Int64.maxValue.toInt then some (Int64.ofInt n) else none

/-- Integers serve as floating-point numbers too. -/
def float? : Node → Option Binary64
  | .float x => some x
  | .int n => some (.ofInt n)
  | _ => none

def list? {α : Type} (read : Node → Option α) : Node → Option (List α)
  | .arr items => items.mapM read
  | _ => none

/-- One of a few names, alone or as the only key of an object without a value. -/
def choice? {α : Type} (choices : List (String × α)) : Node → Option α
  | .str s => choices.lookup s
  | .obj [(key, .null)] => choices.lookup key
  | _ => none

/-- The fields of a record. No declared field may be given twice; an array may leave out
fields at its end that have a default. -/
def record? (names defaulted : List String) : Node → Option (List (String × Node))
  | .obj fields =>
    if names.any fun name => 1 < (fields.filter (·.1 == name)).length then none
    else some fields
  | .arr items =>
    if items.length ≤ names.length && (names.drop items.length).all defaulted.contains then
      some (names.zip items)
    else none
  | _ => none

def required? {α : Type} (record : List (String × Node)) (name : String)
    (read : Node → Option α) : Option α :=
  (record.lookup name).bind read

/-- A field that is absent or null has no value. -/
def optional? {α : Type} (record : List (String × Node)) (name : String)
    (read : Node → Option α) : Option (Option α) :=
  match record.lookup name with
  | none => some none
  | some .null => some none
  | some node => (read node).map some

end ReadoutControl.Json.Node
