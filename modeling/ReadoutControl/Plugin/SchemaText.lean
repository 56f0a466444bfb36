import ReadoutControl.Plugin.Registry
import ReadoutControl.Yaml.Node

set_option autoImplicit false

/-!
Plugin registries written in YAML: a mapping with the list of `plugins`, each with its `name` and
the `commands` it accepts. Every scalar is taken as text.
-/

namespace ReadoutControl.Registry

open Yaml (Decoder Document Node)

/-- The fields of a mapping by name. None of the given names may occur twice, and nothing at all
is a mapping without fields. -/
def fieldsOf (d : Document) (names : List String) (node : Node) :
    Decoder (List (String × Node)) := do
  match ← Decoder.resolve d node with
  | .mapping entries =>
    let fields ← entries.mapM fun (key, value) => do
      match ← Decoder.resolve d key with
      | .scalar _ name => return (name, value)
      | _ => Decoder.fail
    if names.any fun name => 1 < (fields.filter (·.1 == name)).length then Decoder.fail
    else return fields
  | .scalar true "" => return []
  | _ => Decoder.fail

/-- Nothing at all is an empty list. -/
def itemsOf (d : Document) (node : Node) : Decoder (List Node) := do
  match ← Decoder.resolve d node with
  | .sequence items => return items
  | .scalar true "" => return []
  | _ => Decoder.fail

def textOf (d : Document) (node : Node) : Decoder String := do
  match ← Decoder.resolve d node with
  | .scalar _ text => return text
  | _ => Decoder.fail

def pluginOf (d : Document) (node : Node) : Decoder Plugin := do
  let fields ← fieldsOf d ["name", "commands"] node
  let name ← textOf d (← Decoder.ofOption (fields.lookup "name"))
  let commands ← match fields.lookup "commands" with
    | none => pure []
    | some node => (← itemsOf d node).mapM (textOf d)
  return ⟨name, commands⟩

def pluginsOf (d : Document) : Decoder (List Plugin) := do
  let fields ← fieldsOf d ["plugins"] d.root
  (← itemsOf d (← Decoder.ofOption (fields.lookup "plugins"))).mapM (pluginOf d)

def ofYaml? (text : String) : Option Registry :=
  (Yaml.Document.ofText? text).bind fun d =>
    ((pluginsOf d).run d.aliasLimit).map fun (plugins, _) => ofPlugins plugins

end ReadoutControl.Registry
