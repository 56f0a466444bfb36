import ReadoutControl.Plugin.Registry
import ReadoutControl.Text.Quoted
import ReadoutControl.Topology.Basic

set_option autoImplicit false

/-!
The structural rules of a topology: names are unique, connections reach declared queues, a queue
for one producer has at most one, and every plugin is known. Of several violations the first in
the order of the checks is reported.
-/

namespace ReadoutControl

inductive TopologyError where
  | duplicateQueue (queue : String)
  | duplicateModule (module : String)
  | unknownQueue (module connection queue : String)
  | multipleProducers (queue : String) (producers : List String)
  | unknownPlugin (module plugin : String)
  deriving DecidableEq

namespace TopologyError

def message : TopologyError → String
  | duplicateQueue queue => s!"Duplicate queue: {queue}"
  | duplicateModule module => s!"Duplicate module: {module}"
  | unknownQueue module connection queue =>
    s!"Module '{module}' connection '{connection}' references unknown queue '{queue}'"
  | multipleProducers queue producers =>
    s!"Queue '{queue}' is single-producer but is written by {Text.quoteList producers}"
  | unknownPlugin module plugin => s!"Module '{module}' uses unknown plugin '{plugin}'"

end TopologyError

namespace Topology

/-- The first member that occurred before. -/
def firstRepeated? (names : List String) : Option String :=
  go [] names
where
  go (seen : List String) : List String → Option String
    | [] => none
    | name :: rest => if name ∈ seen then some name else go (name :: seen) rest

/-- What is wrong with one module, given the names of the modules before it. -/
def moduleError? (registry : Registry) (queues before : List String) (m : DaqModule) :
    Option TopologyError :=
  if m.inst ∈ before then some (.duplicateModule m.inst)
  else if !registry.hasPlugin m.plugin then some (.unknownPlugin m.inst m.plugin)
  else (m.connections.find? (·.queue ∉ queues)).map fun c =>
    .unknownQueue m.inst c.name c.queue

def firstModuleError? (registry : Registry) (queues before : List String) :
    List DaqModule → Option TopologyError
  | [] => none
  | m :: rest =>
    match moduleError? registry queues before m with
    | some e => some e
    | none => firstModuleError? registry queues (m.inst :: before) rest

/-- A queue that allows one producer but is written through several outputs. -/
def producerError? (t : Topology) (q : Queue) : Option TopologyError :=
  if q.kind.isMultiProducer then none
  else
    let producers := t.producers q.inst
    if 1 < producers.length then some (.multipleProducers q.inst producers) else none

def error? (t : Topology) (registry : Registry) : Option TopologyError :=
  let queues := t.queues.map (·.inst)
  match firstRepeated? queues with
  | some queue => some (.duplicateQueue queue)
  | none =>
    match firstModuleError? registry queues [] t.modules with
    | some e => some e
    | none => t.queues.findSome? t.producerError?

def validate (t : Topology) (registry : Registry) : Except TopologyError Unit :=
  match t.error? registry with
  | some e => .error e
  | none => .ok ()

end Topology

end ReadoutControl
