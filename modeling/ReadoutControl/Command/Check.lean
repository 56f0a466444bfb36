import ReadoutControl.Command.Basic
import ReadoutControl.Topology.Validation

set_option autoImplicit false

/-!
Checking commands against the plugins: every module that a command addresses must accept it, and
an exact address must name a module.
-/

namespace ReadoutControl

inductive SchemaError where
  | pluginNotFound (plugin : String)
  | unsupportedCommand (command module plugin : String)
  | unknownModule (command module : String)
  | topology (e : TopologyError)
  deriving DecidableEq

namespace SchemaError

def message : SchemaError → String
  | pluginNotFound plugin => s!"Plugin not found: {plugin}"
  | unsupportedCommand command module plugin =>
    s!"Plugin '{plugin}' of module '{module}' does not accept command '{command}'"
  | unknownModule command module =>
    s!"Command '{command}' addresses unknown module '{module}'"
  | topology e => e.message

end SchemaError

namespace Registry

def requirePlugin (r : Registry) (name : String) : Except SchemaError Plugin :=
  match r.plugin? name with
  | some p => .ok p
  | none => .error (.pluginNotFound name)

/-- Why a module may not be sent a command. -/
def moduleRefusal? (r : Registry) (command : String) (m : DaqModule) : Option SchemaError :=
  match r.plugin? m.plugin with
  | none => some (.pluginNotFound m.plugin)
  | some p => if p.accepts command then none else some (.unsupportedCommand command m.inst p.name)

/-- Why an entry of a command may not be sent. A pattern may match no module. -/
def entryRefusal? (r : Registry) (t : Topology) (command : String) (entry : Addressed) :
    Option SchemaError :=
  let matched := t.modules.filter fun m => entry.target.matchesName m.inst
  match matched.findSome? (r.moduleRefusal? command) with
  | some e => some e
  | none =>
    if matched.isEmpty && entry.target.isExact then
      some (.unknownModule command entry.target.text)
    else none

def commandRefusal? (r : Registry) (t : Topology) (c : Command) : Option SchemaError :=
  c.addressed.findSome? (r.entryRefusal? t c.id)

/-- The first violation of a sequence: of its topology, then of its commands. A sequence without
a topology has none. -/
def sequenceRefusal? (r : Registry) (s : CommandSequence) : Option SchemaError :=
  match s.topology? with
  | none => none
  | some t =>
    match t.error? r with
    | some e => some (.topology e)
    | none => s.commands.findSome? (r.commandRefusal? t)

def refuse (refusal : Option SchemaError) : Except SchemaError Unit :=
  match refusal with
  | some e => .error e
  | none => .ok ()

def checkCommand (r : Registry) (t : Topology) (c : Command) : Except SchemaError Unit :=
  refuse (r.commandRefusal? t c)

def checkSequence (r : Registry) (s : CommandSequence) : Except SchemaError Unit :=
  refuse (r.sequenceRefusal? s)

end Registry

end ReadoutControl
