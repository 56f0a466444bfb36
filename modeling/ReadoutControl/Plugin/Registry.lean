import ReadoutControl.Json.Record

set_option autoImplicit false

/-!
The plugins an application can use and the commands each of them accepts. A registry is looked up
through an index of positions; one that was read as plain data has no index and finds nothing.
-/

namespace ReadoutControl

structure Plugin where
  name : String
  commands : List String
  deriving DecidableEq

namespace Plugin

def accepts (p : Plugin) (command : String) : Bool := p.commands.contains command

def toJson (p : Plugin) : Json :=
  .obj [("name", .str p.name), ("commands", .arr (p.commands.map .str))]

def read? (node : Json.Node) : Option Plugin := do
  let record ← node.record? ["name", "commands"] ["commands"]
  let name ← Json.Node.required? record "name" Json.Node.text?
  let commands ← match record.lookup "commands" with
    | none => some []
    | some node => node.list? Json.Node.text?
  return ⟨name, commands⟩

end Plugin

structure Registry where
  plugins : List Plugin
  /-- The position of each name, in name order. -/
  index : List (String × Nat)
  deriving DecidableEq

namespace Registry

/-- The index of a list of plugins, in which the last of equal names stands. -/
def indexOf (plugins : List Plugin) : List (String × Nat) :=
  Json.sortFields (plugins.zipIdx.map fun (p, i) => (p.name, i))

def ofPlugins (plugins : List Plugin) : Registry := ⟨plugins, indexOf plugins⟩

def lifecycle : List String := ["conf", "start", "stop", "pause", "resume", "scrap"]

/-- The plugins of the readout, dataflow and trigger emulation packages. -/
def builtin : Registry := ofPlugins
  [⟨"FakeCardReader", lifecycle⟩,
   ⟨"DataLinkHandler", lifecycle ++ ["record"]⟩,
   ⟨"DataRecorder", lifecycle⟩,
   ⟨"TriggerDecisionEmulator", lifecycle⟩,
   ⟨"RequestGenerator", lifecycle⟩,
   ⟨"FragmentReceiver", lifecycle⟩,
   ⟨"DataWriter", lifecycle⟩]

def plugin? (r : Registry) (name : String) : Option Plugin :=
  (r.index.lookup name).bind fun i => r.plugins[i]?

def hasPlugin (r : Registry) (name : String) : Bool := (r.index.lookup name).isSome

def toJson (r : Registry) : Json := .obj [("plugins", .arr (r.plugins.map Plugin.toJson))]

/-- Reads the plugins alone. -/
def read? (node : Json.Node) : Option Registry := do
  let record ← node.record? ["plugins"] []
  let plugins ← Json.Node.required? record "plugins" (Json.Node.list? Plugin.read?)
  return ⟨plugins, []⟩

def ofJson? (text : String) : Option Registry := (Json.Node.ofText? text.toList).bind read?

end Registry

end ReadoutControl
