import ReadoutControl.Command.Address
import ReadoutControl.Topology.Basic

set_option autoImplicit false

/-!
Lifecycle commands. The first command of an application carries its topology, the others carry
payloads addressed to its modules.
-/

namespace ReadoutControl

/-- The state of an application before or after a command. -/
inductive RunState where
  | none
  | initial
  | configured
  | running
  deriving DecidableEq

namespace RunState

def name : RunState → String
  | none => "NONE"
  | initial => "INITIAL"
  | configured => "CONFIGURED"
  | running => "RUNNING"

def all : List RunState := [none, initial, configured, running]

def read? : Json.Node → Option RunState := Json.Node.choice? (all.map fun s => (s.name, s))

end RunState

/-- A payload for the modules at an address, absent when the command takes no parameters. -/
structure Addressed where
  target : Address
  payload : Option Json

namespace Addressed

def ofPayload (target : Address) (payload : Json) : Addressed := ⟨target, some payload.sorted⟩

def ofTarget (target : Address) : Addressed := ⟨target, none⟩

def toJson (a : Addressed) : Json :=
  .obj [("match", a.target.toJson), ("data", a.payload.getD .null)]

def read? (node : Json.Node) : Option Addressed := do
  let record ← node.record? ["match", "data"] []
  return {
    target := ← Json.Node.required? record "match" Address.read?
    payload := ← Json.Node.optional? record "data" Json.Node.value? }

end Addressed

inductive CommandBody where
  | topology (t : Topology)
  | payloads (entries : List Addressed)

namespace CommandBody

def toJson : CommandBody → Json
  | topology t => t.toJson
  | payloads entries => .obj [("modules", .arr (entries.map Addressed.toJson))]

def readPayloads? (node : Json.Node) : Option (List Addressed) := do
  let record ← node.record? ["modules"] []
  Json.Node.required? record "modules" (Json.Node.list? Addressed.read?)

/-- A body is taken in whole before its shape is known, so no part of it is skipped. It is a
topology if it can be read as one. -/
def read? (node : Json.Node) : Option CommandBody :=
  if node.value?.isNone then none
  else match Topology.read? node with
    | some t => some (.topology t)
    | none => (readPayloads? node).map .payloads

end CommandBody

structure Command where
  id : String
  entry : Option RunState
  exit : Option RunState
  body : CommandBody

namespace Command

def ofTopology (t : Topology) : Command := ⟨"init", none, none, .topology t⟩

def ofPayloads (id : String) (entries : List Addressed) : Command :=
  ⟨id, none, none, .payloads entries⟩

/-- The command with run-control states attached. -/
def withStates (c : Command) (entry exit : RunState) : Command :=
  { c with entry := some entry, exit := some exit }

def topology? (c : Command) : Option Topology :=
  match c.body with
  | .topology t => some t
  | .payloads _ => none

/-- The addressed payloads; a topology has none. -/
def addressed (c : Command) : List Addressed :=
  match c.body with
  | .topology _ => []
  | .payloads entries => entries

/-- The payload of the first entry whose address is written so. -/
def payloadFor? (c : Command) (target : String) : Option Json :=
  (c.addressed.find? (·.target.text = target)).bind (·.payload)

def stateField (name : String) (state : Option RunState) : List (String × Json) :=
  Json.optionalField name (state.map fun s => .str s.name)

/-- States that are absent are left out. -/
def toJson (c : Command) : Json :=
  .obj ([("id", .str c.id)] ++ stateField "entry_state" c.entry ++
    stateField "exit_state" c.exit ++ [("data", c.body.toJson)])

def read? (node : Json.Node) : Option Command := do
  let record ← node.record? ["id", "entry_state", "exit_state", "data"] []
  return {
    id := ← Json.Node.required? record "id" Json.Node.text?
    entry := ← Json.Node.optional? record "entry_state" RunState.read?
    exit := ← Json.Node.optional? record "exit_state" RunState.read?
    body := ← Json.Node.required? record "data" CommandBody.read? }

end Command

/-- The commands of an application in the order they are sent. -/
structure CommandSequence where
  commands : List Command

namespace CommandSequence

def command? (s : CommandSequence) (id : String) : Option Command :=
  s.commands.find? (·.id = id)

def ids (s : CommandSequence) : List String := s.commands.map (·.id)

/-- The topology of the first command that carries one. -/
def topology? (s : CommandSequence) : Option Topology :=
  s.commands.findSome? Command.topology?

def toJson (s : CommandSequence) : Json := .arr (s.commands.map Command.toJson)

def read? (node : Json.Node) : Option CommandSequence :=
  (node.list? Command.read?).map fun commands => ⟨commands⟩

def ofText? (text : String) : Option CommandSequence :=
  (Json.Node.ofText? text.toList).bind read?

end CommandSequence

end ReadoutControl
