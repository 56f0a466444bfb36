import ReadoutControl.Balance.CpuSet
import ReadoutControl.Json.Printer
import ReadoutControl.Json.Record
import ReadoutControl.KeyMap

set_option autoImplicit false

/-!
The CPUs for each thread of each application.
-/

namespace ReadoutControl

def CpuSet.toJson (s : CpuSet) : Json := .arr (s.cpus.map fun cpu => .ofNat cpu.toNat)

def CpuSet.read? (node : Json.Node) : Option CpuSet :=
  (node.list? Json.Node.uint64?).map .ofList

namespace KeyMap

variable {α : Type}

def toJson (write : α → Json) (m : KeyMap α) : Json :=
  .obj (m.entries.map fun entry => (entry.1, write entry.2))

/-- A map is an object, of which every field must be readable. -/
def read? (read : Json.Node → Option α) : Json.Node → Option (KeyMap α)
  | .obj fields =>
    (fields.mapM fun field => (read field.2).map fun value => (field.1, value)).map ofList
  | _ => none

end KeyMap

structure PinMap where
  apps : KeyMap (KeyMap CpuSet)

namespace PinMap

def hasApp (p : PinMap) (app : String) : Bool := p.apps.contains app

/-- The CPUs for a thread of an application. -/
def lookup (p : PinMap) (app thread : String) : Option CpuSet :=
  (p.apps.lookup app).bind (·.lookup thread)

/-- The applications in order. -/
def appNames (p : PinMap) : List String := p.apps.keys

def isEmpty (p : PinMap) : Bool := p.apps.isEmpty

def toJson (p : PinMap) : Json := p.apps.toJson (KeyMap.toJson CpuSet.toJson)

def text (p : PinMap) : String := String.ofList p.toJson.compact

def read? (node : Json.Node) : Option PinMap :=
  (KeyMap.read? (KeyMap.read? CpuSet.read?) node).map .mk

def ofText? (text : String) : Option PinMap := (Json.Node.ofText? text.toList).bind read?

end PinMap

end ReadoutControl
