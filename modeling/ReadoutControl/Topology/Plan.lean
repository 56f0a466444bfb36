import ReadoutControl.Topology.Validation

set_option autoImplicit false

/-!
A plan collects queues and modules in whatever order reads best; building it puts the queues in
name order and checks the wiring.
-/

namespace ReadoutControl

/-- Queues and modules declared so far, each in declaration order. -/
structure Plan where
  queues : List Queue
  modules : List DaqModule
  deriving DecidableEq

namespace Plan

def empty : Plan := ⟨[], []⟩

def addQueue (p : Plan) (inst : String) (kind : QueueKind) (capacity : UInt64) : Plan :=
  { p with queues := p.queues ++ [⟨inst, kind, capacity⟩] }

/-- Declares one queue for each index, named by `name`. -/
def addQueues (p : Plan) (indices : List Nat) (kind : QueueKind) (capacity : UInt64)
    (name : Nat → String) : Plan :=
  { p with queues := p.queues ++ indices.map fun i => ⟨name i, kind, capacity⟩ }

def addModule (p : Plan) (inst plugin : String) (connections : List Connection) : Plan :=
  { p with modules := p.modules ++ [⟨inst, plugin, connections⟩] }

/-- Declares one module for each index. -/
def addModules (p : Plan) (indices : List Nat) (plugin : String) (name : Nat → String)
    (connections : Nat → List Connection) : Plan :=
  { p with modules := p.modules ++ indices.map fun i => ⟨name i, plugin, connections i⟩ }

def topology (p : Plan) : Topology := .ofParts p.queues p.modules

def build (p : Plan) (registry : Registry) : Except TopologyError Topology :=
  (p.topology.validate registry).map fun _ => p.topology

end Plan

end ReadoutControl
