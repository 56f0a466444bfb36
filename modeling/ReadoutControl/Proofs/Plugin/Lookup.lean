import ReadoutControl.Plugin.SchemaText
import ReadoutControl.Proofs.Json.Fields

set_option autoImplicit false

/-!
Looking plugins up. A registry that was built, rather than read as plain data, has an index whose
positions lead to entries of the name asked for, so having a plugin and finding it are the same.
-/

namespace ReadoutControl.Registry

/-- The ways to come by a registry that has its index. -/
inductive Built : Registry → Prop
  | ofPlugins (plugins : List Plugin) : Built (ofPlugins plugins)
  | builtin : Built builtin
  | yaml {text : String} {r : Registry} : ofYaml? text = some r → Built r

theorem Built.eq_ofPlugins {r : Registry} (built : r.Built) : r = .ofPlugins r.plugins := by
  cases built with
  | ofPlugins plugins => rfl
  | builtin => rfl
  | yaml read =>
    obtain ⟨d, _, decoded⟩ := Option.bind_eq_some_iff.mp read
    obtain ⟨⟨plugins, _⟩, _, rfl⟩ := Option.map_eq_some_iff.mp decoded
    rfl

theorem mem_indexOf {plugins : List Plugin} {entry : String × Nat}
    (member : entry ∈ indexOf plugins) : ∃ p, plugins[entry.2]? = some p ∧ p.name = entry.1 := by
  obtain ⟨⟨p, i⟩, position, rfl⟩ := List.mem_map.mp (Json.mem_sortFields member)
  exact ⟨p, List.mem_zipIdx_iff_getElem?.mp position, rfl⟩

theorem lookup_indexOf {plugins : List Plugin} {name : String} {i : Nat}
    (found : (indexOf plugins).lookup name = some i) :
    ∃ p, plugins[i]? = some p ∧ p.name = name := mem_indexOf (Json.mem_of_lookup_eq_some found)

theorem Built.plugin?_name {r : Registry} (built : r.Built) {name : String} {p : Plugin}
    (found : r.plugin? name = some p) : p.name = name := by
  rw [built.eq_ofPlugins] at found
  obtain ⟨i, position, entry⟩ := Option.bind_eq_some_iff.mp found
  obtain ⟨q, same, named⟩ := lookup_indexOf position
  obtain rfl : q = p := Option.some.inj (same.symm.trans entry)
  exact named

theorem Built.hasPlugin_iff {r : Registry} (built : r.Built) (name : String) :
    r.hasPlugin name = true ↔ ∃ p, r.plugin? name = some p := by
  rw [built.eq_ofPlugins]
  constructor
  · intro has
    obtain ⟨i, position⟩ := Option.isSome_iff_exists.mp has
    obtain ⟨p, entry, _⟩ := lookup_indexOf position
    exact ⟨p, Option.bind_eq_some_iff.mpr ⟨i, position, entry⟩⟩
  · rintro ⟨p, found⟩
    obtain ⟨i, position, _⟩ := Option.bind_eq_some_iff.mp found
    exact Option.isSome_iff_exists.mpr ⟨i, position⟩

/-- The ways to come by a registry. One that is read as plain data, in whatever format, has its
plugins and no index. -/
inductive Obtained : Registry → Prop
  | built {r : Registry} : r.Built → Obtained r
  | plain (plugins : List Plugin) : Obtained ⟨plugins, []⟩

theorem Obtained.of_read? {node : Json.Node} {r : Registry} (read : read? node = some r) :
    r.Obtained := by
  obtain ⟨record, _, listed⟩ := Option.bind_eq_some_iff.mp read
  obtain ⟨plugins, _, same⟩ := Option.bind_eq_some_iff.mp listed
  obtain rfl := Option.some.inj same
  exact .plain plugins

/-- A plugin that the registry has is found under its name. -/
theorem Obtained.exists_plugin? {r : Registry} (obtained : r.Obtained) {name : String}
    (has : r.hasPlugin name = true) : ∃ p, r.plugin? name = some p ∧ p.name = name := by
  cases obtained with
  | built built =>
    obtain ⟨p, found⟩ := (built.hasPlugin_iff name).mp has
    exact ⟨p, found, built.plugin?_name found⟩
  | plain plugins => simp [hasPlugin] at has

/-- The registry has the plugin, and the plugin accepts the command. -/
def Accepts (r : Registry) (plugin command : String) : Prop :=
  ∃ p, r.plugin? plugin = some p ∧ p.accepts command = true

/-- The registry has the plugin, and the plugin accepts all the commands. -/
def Serves (r : Registry) (plugin : String) (commands : List String) : Prop :=
  ∃ p, r.plugin? plugin = some p ∧ ∀ command ∈ commands, p.accepts command = true

instance (r : Registry) (plugin : String) (commands : List String) :
    Decidable (r.Serves plugin commands) :=
  decidable_of_iff ((r.plugin? plugin).any fun p => commands.all p.accepts)
    (by simp [Serves, Option.any_eq_true])

theorem serves_iff {r : Registry} {plugin : String} {commands : List String}
    (some_command : commands ≠ []) :
    r.Serves plugin commands ↔ ∀ command ∈ commands, r.Accepts plugin command := by
  constructor
  · rintro ⟨p, found, accepts⟩ command member
    exact ⟨p, found, accepts command member⟩
  · intro each
    obtain ⟨first, rest, rfl⟩ := List.exists_cons_of_ne_nil some_command
    obtain ⟨p, found, _⟩ := each first (List.mem_cons_self ..)
    refine ⟨p, found, fun command member => ?_⟩
    obtain ⟨q, again, accepts⟩ := each command member
    obtain rfl : p = q := Option.some.inj (found.symm.trans again)
    exact accepts

end ReadoutControl.Registry
