import ReadoutControl.Topology.Queue

set_option autoImplicit false

/-!
Modules wired to queues, and the topology they form.
-/

namespace ReadoutControl

/-- A named processing unit, the plugin that implements it and its connections. -/
structure DaqModule where
  inst : String
  plugin : String
  connections : List Connection
  deriving DecidableEq

namespace DaqModule

/-- The first connection of that local name. -/
def connection? (m : DaqModule) (name : String) : Option Connection :=
  m.connections.find? (·.name = name)

/-- The connections through which the module writes. -/
def outputs (m : DaqModule) : List Connection :=
  m.connections.filter (·.dir = .output)

def toJson (m : DaqModule) : Json :=
  .obj [("inst", .str m.inst), ("plugin", .str m.plugin),
    ("data", .obj [("qinfos", .arr (m.connections.map Connection.toJson))])]

def readConnections? (node : Json.Node) : Option (List Connection) := do
  let record ← node.record? ["qinfos"] []
  Json.Node.required? record "qinfos" (Json.Node.list? Connection.read?)

def read? (node : Json.Node) : Option DaqModule := do
  let record ← node.record? ["inst", "plugin", "data"] []
  return {
    inst := ← Json.Node.required? record "inst" Json.Node.text?
    plugin := ← Json.Node.required? record "plugin" Json.Node.text?
    connections := ← Json.Node.required? record "data" readConnections? }

end DaqModule

/-- The queues and modules of an application. -/
structure Topology where
  queues : List Queue
  modules : List DaqModule
  deriving DecidableEq

namespace Topology

def empty : Topology := ⟨[], []⟩

/-- The topology with its queues in the order of their names; equal names keep their order. -/
def ofParts (queues : List Queue) (modules : List DaqModule) : Topology :=
  ⟨queues.mergeSort (fun a b => decide (a.inst ≤ b.inst)), modules⟩

def queue? (t : Topology) (name : String) : Option Queue :=
  t.queues.find? (·.inst = name)

def module? (t : Topology) (name : String) : Option DaqModule :=
  t.modules.find? (·.inst = name)

def moduleNames (t : Topology) : List String := t.modules.map (·.inst)

/-- Whether every queue name is above the one before it. -/
def isOrdered (t : Topology) : Bool :=
  (t.queues.zip t.queues.tail).all fun (a, b) => decide (a.inst < b.inst)

/-- All outputs, each with the name of its module, in module then connection order. -/
def allOutputs (t : Topology) : List (String × Connection) :=
  t.modules.flatMap fun m => m.outputs.map fun c => (m.inst, c)

/-- The modules that write the queue, once for each output to it. -/
def producers (t : Topology) (queue : String) : List String :=
  (t.allOutputs.filter (·.2.queue = queue)).map (·.1)

def toJson (t : Topology) : Json :=
  .obj [("queues", .arr (t.queues.map Queue.toJson)),
    ("modules", .arr (t.modules.map DaqModule.toJson))]

def read? (node : Json.Node) : Option Topology := do
  let record ← node.record? ["queues", "modules"] []
  return {
    queues := ← Json.Node.required? record "queues" (Json.Node.list? Queue.read?)
    modules := ← Json.Node.required? record "modules" (Json.Node.list? DaqModule.read?) }

end Topology

end ReadoutControl
