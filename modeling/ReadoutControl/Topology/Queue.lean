import ReadoutControl.Json.Record

set_option autoImplicit false

/-!
Queues, and the connections that modules make to them.
-/

namespace ReadoutControl

inductive QueueKind where
  /-- Any number of producers and consumers. -/
  | mpmc
  /-- One producer and one consumer. -/
  | spsc
  | deque
  deriving DecidableEq

namespace QueueKind

def name : QueueKind → String
  | mpmc => "FollyMPMCQueue"
  | spsc => "FollySPSCQueue"
  | deque => "StdDeQueue"

def isMultiProducer : QueueKind → Bool
  | mpmc => true
  | spsc => false
  | deque => true

def all : List QueueKind := [mpmc, spsc, deque]

def read? : Json.Node → Option QueueKind := Json.Node.choice? (all.map fun k => (k.name, k))

end QueueKind

/-- A named queue of bounded depth. -/
structure Queue where
  inst : String
  kind : QueueKind
  capacity : UInt64
  deriving DecidableEq

namespace Queue

def toJson (q : Queue) : Json :=
  .obj [("inst", .str q.inst), ("kind", .str q.kind.name), ("capacity", .ofNat q.capacity.toNat)]

def read? (node : Json.Node) : Option Queue := do
  let record ← node.record? ["inst", "kind", "capacity"] []
  return {
    inst := ← Json.Node.required? record "inst" Json.Node.text?
    kind := ← Json.Node.required? record "kind" QueueKind.read?
    capacity := ← Json.Node.required? record "capacity" Json.Node.uint64? }

end Queue

/-- The direction of a connection, seen from the module. -/
inductive Direction where
  | input
  | output
  deriving DecidableEq

namespace Direction

def name : Direction → String
  | input => "input"
  | output => "output"

def all : List Direction := [input, output]

def read? : Json.Node → Option Direction := Json.Node.choice? (all.map fun d => (d.name, d))

end Direction

/-- A connection of a module, by its local name, to the queue called `queue`. -/
structure Connection where
  name : String
  queue : String
  dir : Direction
  deriving DecidableEq

namespace Connection

def input (name queue : String) : Connection := ⟨name, queue, .input⟩

def output (name queue : String) : Connection := ⟨name, queue, .output⟩

def toJson (c : Connection) : Json :=
  .obj [("name", .str c.name), ("inst", .str c.queue), ("dir", .str c.dir.name)]

def read? (node : Json.Node) : Option Connection := do
  let record ← node.record? ["name", "inst", "dir"] []
  return {
    name := ← Json.Node.required? record "name" Json.Node.text?
    queue := ← Json.Node.required? record "inst" Json.Node.text?
    dir := ← Json.Node.required? record "dir" Direction.read? }

end Connection

end ReadoutControl
