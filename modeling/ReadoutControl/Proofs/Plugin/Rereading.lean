import ReadoutControl.Proofs.Command.Refusal
import ReadoutControl.Proofs.Json.Reading
import ReadoutControl.Proofs.Json.Record
import ReadoutControl.Proofs.Plugin.Lookup

set_option autoImplicit false

/-!
What becomes of a registry that is written and read again. The document lists the plugins alone, so
that they all come back while none of them is found, until the index is built from them once more.
-/

namespace ReadoutControl

open Json Json.Node

namespace Plugin

theorem read?_tree (p : Plugin) : Plugin.read? p.toJson.tree = some p := by
  obtain ⟨record, found, lookup⟩ := record?_tree (v := p.toJson) rfl (by simp)
    ["name", "commands"] ["commands"]
  have name := required?_of_lookup (lookup "name") (text?_tree p.name)
  have listed : record.lookup "commands" = some (Json.arr (p.commands.map .str)).tree :=
    lookup "commands"
  have commands : (Json.arr (p.commands.map .str)).tree.list? text? = some p.commands :=
    list?_tree fun command _ => text?_tree command
  simp only [Plugin.read?, found, name, listed, commands, Option.bind_eq_bind, Option.bind_some]
  rfl

theorem fits_toJson {P : Binary64 → Prop} {depth : Nat} (p : Plugin) :
    p.toJson.Fits P (depth + 2) := by
  have commands : (Json.arr (p.commands.map .str)).Fits P (depth + 1) :=
    .arr (List.forall_mem_map.mpr fun command _ => .str command)
  exact .obj (by simp [commands])

end Plugin

namespace Registry

/-- The registry with the same plugins and no index. -/
def plain (r : Registry) : Registry := ⟨r.plugins, []⟩

theorem read?_tree (r : Registry) : Registry.read? r.toJson.tree = some r.plain := by
  obtain ⟨record, found, lookup⟩ := record?_tree (v := r.toJson) rfl (by simp) ["plugins"] []
  have plugins := required?_of_lookup (lookup "plugins")
    (list?_tree fun p _ => Plugin.read?_tree p)
  simp only [Registry.read?, found, plugins, Option.bind_eq_bind, Option.bind_some]
  rfl

theorem fits_toJson {P : Binary64 → Prop} {depth : Nat} (r : Registry) :
    r.toJson.Fits P (depth + 4) := by
  have plugins : (Json.arr (r.plugins.map Plugin.toJson)).Fits P (depth + 3) :=
    .arr (List.forall_mem_map.mpr fun p _ => p.fits_toJson)
  exact .obj (by simp [plugins])

theorem ofJson?_document (r : Registry) : ofJson? r.toJson.document = some r.plain := by
  have fits : r.toJson.Fits Binary64.ReadsBack 4 := r.fits_toJson
  rw [ofJson?, ofText?_document (fits.deeper (by decide)), Option.bind_some, read?_tree]

variable {r : Registry}

theorem isSome_lookup_indexOf {plugins : List Plugin} {name : String} :
    ((indexOf plugins).lookup name).isSome = true ↔ name ∈ plugins.map (·.name) := by
  have names := congrArg (List.map (·.name)) (List.zipIdx_map_fst 0 plugins)
  rw [List.map_map] at names
  rw [indexOf, lookup_sortFields, isSome_last_iff, List.map_map, ← names]
  rfl

/-- A registry that was built has the plugins it lists. -/
theorem Built.hasPlugin_iff_listed (built : r.Built) (name : String) :
    r.hasPlugin name = true ↔ name ∈ r.plugins.map (·.name) := by
  rw [built.eq_ofPlugins]
  exact isSome_lookup_indexOf

theorem Built.plugin?_eq_none_iff (built : r.Built) (name : String) :
    r.plugin? name = none ↔ name ∉ r.plugins.map (·.name) := by
  rw [← built.hasPlugin_iff_listed, built.hasPlugin_iff, ← Option.isSome_iff_exists,
    Option.not_isSome_iff_eq_none]

theorem requirePlugin_plain (r : Registry) (name : String) :
    r.plain.requirePlugin name = .error (.pluginNotFound name) := rfl

variable {t : Topology}

/-- The first module has an unknown plugin, and its queue names are no reason to refuse it before. -/
theorem error?_eq_unknownPlugin_iff {m : DaqModule} {rest : List DaqModule}
    (modules : t.modules = m :: rest) (distinct : (t.queues.map (·.inst)).Nodup) :
    t.error? r = some (.unknownPlugin m.inst m.plugin) ↔ r.hasPlugin m.plugin = false := by
  rw [Topology.error?_eq_some_iff]
  constructor
  · intro violation
    generalize expected : TopologyError.unknownPlugin m.inst m.plugin = e at violation
    cases violation with
    | queue => exact nomatch expected
    | producers => exact nomatch expected
    | @module early late other e distinct split sound fault =>
      cases fault with
      | repeated => exact nomatch expected
      | unknownQueue => exact nomatch expected
      | unknownPlugin fresh unknown =>
        obtain ⟨inst, plugin⟩ := TopologyError.unknownPlugin.inj expected
        rwa [plugin]
  · intro unknown
    have sound : Topology.SoundModules r (t.queues.map (·.inst)) [] := ⟨.nil, by simp, by simp⟩
    have first : t.modules = [] ++ m :: rest := modules
    exact .module distinct first sound (.unknownPlugin List.not_mem_nil unknown)

/-- No plugin is looked up where a queue name repeats or where there are no modules. -/
theorem error?_eq_of_unchecked (r other : Registry)
    (unchecked : (t.queues.map (·.inst)).Nodup → t.modules = []) :
    t.error? r = t.error? other := by
  cases repeated : Topology.firstRepeated? (t.queues.map (·.inst)) with
  | some queue => simp only [Topology.error?, repeated]
  | none =>
    have modules := unchecked (Topology.firstRepeated?_eq_none_iff.mp repeated)
    simp only [Topology.error?, repeated, modules, Topology.firstModuleError?]

theorem validate_eq_validate_iff {other : Registry} :
    t.validate r = t.validate other ↔ t.error? r = t.error? other := by
  unfold Topology.validate
  cases t.error? r <;> cases t.error? other <;> simp

/-- Without an index the first module is refused for its plugin, unless a queue is refused before. -/
theorem validate_plain_iff (r : Registry) (t : Topology) :
    t.validate r.plain = t.validate r ↔
      ((t.queues.map (·.inst)).Nodup → ∀ m ∈ t.modules.head?, r.hasPlugin m.plugin = false) := by
  rw [validate_eq_validate_iff]
  by_cases distinct : (t.queues.map (·.inst)).Nodup
  · cases modules : t.modules with
    | nil => simp [error?_eq_of_unchecked r.plain r fun _ => modules]
    | cons m rest =>
      have lost := (error?_eq_unknownPlugin_iff (r := r.plain) modules distinct).mpr rfl
      rw [lost, eq_comm, error?_eq_unknownPlugin_iff modules distinct]
      simp [distinct]
  · simp [error?_eq_of_unchecked r.plain r fun unrepeated => absurd unrepeated distinct, distinct]

/-- Without an index no module passes. -/
theorem modules_eq_nil_of_plain (valid : t.error? r.plain = none) : t.modules = [] := by
  refine List.eq_nil_iff_forall_not_mem.mpr fun m member => ?_
  exact nomatch (Topology.error?_eq_none_iff.mp valid).2 m member

/-- Where there are no modules, no command is refused for a plugin. -/
theorem commandRefusal?_eq_of_nil (r other : Registry) (modules : t.modules = []) :
    r.commandRefusal? t = other.commandRefusal? t := by
  funext c
  simp only [commandRefusal?]
  congr 1
  funext entry
  simp [entryRefusal?, modules]

theorem refuse_inj {a b : Option SchemaError} : refuse a = refuse b ↔ a = b := by
  cases a <;> cases b <;> simp [refuse]

/-- A sequence is judged alike exactly if its topology is. -/
theorem checkSequence_plain_iff (built : r.Built) (s : CommandSequence) :
    r.plain.checkSequence s = r.checkSequence s ↔
      ∀ t, s.topology? = some t → t.validate r.plain = t.validate r := by
  rw [checkSequence, checkSequence, refuse_inj]
  constructor
  · intro alike t carried
    rw [validate_eq_validate_iff]
    cases valid : t.error? r.plain with
    | none =>
      rw [← valid]
      exact error?_eq_of_unchecked _ _ fun _ => modules_eq_nil_of_plain valid
    | some e =>
      have lost : r.plain.sequenceRefusal? s = some (.topology e) := by
        simp [sequenceRefusal?, carried, valid]
      have refusal := (sequenceRefusal?_eq_some_iff (.built built)).mp (alike.symm.trans lost)
      cases refusal with
      | command _ _ _ _ _ _ fault => cases fault
      | topology again invalid =>
        obtain rfl := Option.some.inj (carried.symm.trans again)
        exact (Topology.validate_eq_error_iff.mp invalid).symm
  · intro alike
    cases carried : s.topology? with
    | none => simp [sequenceRefusal?, carried]
    | some t =>
      have same := validate_eq_validate_iff.mp (alike t carried)
      simp only [sequenceRefusal?, carried, same]
      cases valid : t.error? r with
      | some e => rfl
      | none =>
        have modules := modules_eq_nil_of_plain (same.trans valid)
        simp only [commandRefusal?_eq_of_nil r.plain r modules]

/-- How a registry without index compares with the registry that it was: it lists the same plugins,
from which the index can be built again, and answers alike only where no listed plugin is asked
for. -/
structure Unindexed (r plain : Registry) : Prop where
  plugins : plain.plugins = r.plugins
  rebuilt : ofPlugins plain.plugins = r
  has_iff : ∀ name, plain.hasPlugin name = r.hasPlugin name ↔ name ∉ r.plugins.map (·.name)
  plugin_iff : ∀ name, plain.plugin? name = r.plugin? name ↔ name ∉ r.plugins.map (·.name)
  require_iff : ∀ name,
    plain.requirePlugin name = r.requirePlugin name ↔ name ∉ r.plugins.map (·.name)
  validate_iff : ∀ t : Topology, t.validate plain = t.validate r ↔
    ((t.queues.map (·.inst)).Nodup → ∀ m ∈ t.modules.head?, m.plugin ∉ r.plugins.map (·.name))
  check_iff : ∀ s : CommandSequence, plain.checkSequence s = r.checkSequence s ↔
    ∀ t, s.topology? = some t → t.validate plain = t.validate r

/-- A registry that was built is read back from its document without its index. -/
theorem ofJson?_unindexed (built : r.Built) :
    ∃ plain, ofJson? r.toJson.document = some plain ∧ r.Unindexed plain := by
  have unlisted (name : String) : r.hasPlugin name = false ↔ name ∉ r.plugins.map (·.name) := by
    rw [← built.hasPlugin_iff_listed, Bool.not_eq_true]
  refine ⟨r.plain, r.ofJson?_document, rfl, built.eq_ofPlugins.symm, ?_, ?_, ?_, ?_,
    checkSequence_plain_iff built⟩
  · intro name
    rw [← unlisted]
    exact eq_comm
  · intro name
    rw [← built.plugin?_eq_none_iff]
    exact eq_comm
  · intro name
    rw [requirePlugin_plain, ← built.plugin?_eq_none_iff, requirePlugin]
    cases r.plugin? name <;> simp
  · intro t
    simp only [validate_plain_iff, unlisted]

/-- A reader that is listed in the document is not found afterwards. -/
theorem ofJson?_unindexed_reader :
    ∃ plain, ofJson? (ofPlugins [⟨"FakeCardReader", ["conf"]⟩]).toJson.document = some plain ∧
      plain.plugins = [⟨"FakeCardReader", ["conf"]⟩] ∧
      plain.hasPlugin "DataWriter" = false ∧
      plain.plugin? "FakeCardReader" ≠
        (ofPlugins [⟨"FakeCardReader", ["conf"]⟩]).plugin? "FakeCardReader" := by
  obtain ⟨plain, read, unindexed⟩ :=
    ofJson?_unindexed (.ofPlugins [⟨"FakeCardReader", ["conf"]⟩])
  refine ⟨plain, read, unindexed.plugins, (unindexed.has_iff "DataWriter").mpr (by decide), ?_⟩
  exact fun same => (unindexed.plugin_iff "FakeCardReader").mp same (by decide)

/-- What is written and read again is not the registry that it was. -/
theorem ofJson?_document_not_same :
    ¬ ∀ r : Registry, r.Built → ∃ again, ofJson? r.toJson.document = some again ∧
      again.plugins = r.plugins ∧ (∀ name, again.hasPlugin name = r.hasPlugin name) ∧
      (∀ name, again.plugin? name = r.plugin? name) ∧
      (∀ name, again.requirePlugin name = r.requirePlugin name) ∧
      (∀ t : Topology, t.validate again = t.validate r) ∧
      ∀ s : CommandSequence, again.checkSequence s = r.checkSequence s := by
  intro survives
  obtain ⟨again, read, _, has, _⟩ :=
    survives (ofPlugins [⟨"FakeCardReader", ["conf"]⟩]) (.ofPlugins _)
  rw [ofJson?_document] at read
  obtain rfl := Option.some.inj read
  exact absurd (has "FakeCardReader") (by decide)

end Registry

end ReadoutControl
