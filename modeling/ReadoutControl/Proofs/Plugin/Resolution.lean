import Mathlib.Data.List.Induction
import ReadoutControl.Proofs.Plugin.Rereading

set_option autoImplicit false

/-!
Which plugin a name stands for. In a registry that is made from plugins a name leads to the last of
them that has it, whatever names are repeated. So the plugin for which a topology lets a module pass
is the one whose commands decide what the module may be sent.
-/

namespace ReadoutControl.Registry

/-- The plugin has the name, and no plugin after it does. -/
def LastNamed (plugins : List Plugin) (name : String) (p : Plugin) : Prop :=
  ∃ before after, plugins = before ++ p :: after ∧ p.name = name ∧ ∀ q ∈ after, q.name ≠ name

/-- A registry that is made from plugins: from a list of them, or from a text in which they are
listed. -/
inductive MadeFrom (plugins : List Plugin) : Registry → Prop
  | list : MadeFrom plugins (ofPlugins plugins)
  | text {text : String} {d : Yaml.Document} {left : Nat} {r : Registry} :
    Yaml.Document.ofText? text = some d → (pluginsOf d).run d.aliasLimit = some (plugins, left) →
      ofYaml? text = some r → MadeFrom plugins r

/-- The registry answers by the last plugin of each name. Where a topology passes, all modules have
such a plugin, and a command passes exactly if the plugins of the modules that it reaches accept it
and its exact addresses name modules. -/
structure Resolves (r : Registry) (plugins : List Plugin) : Prop where
  plugin_iff : ∀ name p, r.plugin? name = some p ↔ LastNamed plugins name p
  has_iff : ∀ name, r.hasPlugin name = true ↔ ∃ p ∈ plugins, p.name = name
  require_iff : ∀ name, (∃ p, r.requirePlugin name = .ok p) ↔ ∃ p ∈ plugins, p.name = name
  indexed : ∀ entry ∈ r.index, ∃ p, r.plugins[entry.2]? = some p ∧ p.name = entry.1
  known : ∀ t : Topology, t.validate r = .ok () → ∀ m ∈ t.modules, ∃ p,
    LastNamed plugins m.plugin p
  check_iff : ∀ t : Topology, t.validate r = .ok () → ∀ c : Command,
    r.checkCommand t c = .ok () ↔ ∀ sent ∈ c.addressed,
      (∀ m ∈ t.modules, sent.target.matchesName m.inst = true →
        ∀ p, LastNamed plugins m.plugin p → c.id ∈ p.commands) ∧
      ∀ name, sent.target = .exact name → ∃ m ∈ t.modules, m.inst = name

variable {plugins : List Plugin} {name : String} {r : Registry}

/-- One more plugin takes its name over from those before it. -/
theorem lookup_indexOf_concat (plugins : List Plugin) (p : Plugin) (name : String) :
    (indexOf (plugins ++ [p])).lookup name =
      if name = p.name then some plugins.length else (indexOf plugins).lookup name := by
  simp [indexOf, Json.lookup_sortFields, List.zipIdx_append, Json.lookup_cons]

theorem plugin?_concat (plugins : List Plugin) (p : Plugin) (name : String) :
    (ofPlugins (plugins ++ [p])).plugin? name =
      if name = p.name then some p else (ofPlugins plugins).plugin? name := by
  simp only [plugin?, ofPlugins, lookup_indexOf_concat]
  split
  · simp
  · cases found : (indexOf plugins).lookup name with
    | none => rfl
    | some i =>
      obtain ⟨q, entry, _⟩ := lookup_indexOf found
      obtain ⟨bound, _⟩ := List.getElem?_eq_some_iff.mp entry
      simp [List.getElem?_append_left bound]

/-- Plugins are found as if their list was searched from its end. -/
theorem plugin?_ofPlugins (plugins : List Plugin) (name : String) :
    (ofPlugins plugins).plugin? name = plugins.reverse.find? (·.name = name) := by
  induction plugins using List.reverseRecOn with
  | nil => rfl
  | append_singleton plugins p ih =>
    rw [plugin?_concat, List.reverse_concat, List.find?_cons, ih]
    by_cases same : p.name = name <;> simp [same, eq_comm (a := name)]

theorem lastNamed_iff {p : Plugin} :
    LastNamed plugins name p ↔ plugins.reverse.find? (·.name = name) = some p := by
  simp only [List.find?_eq_some_iff_append, decide_eq_true_iff, Bool.not_eq_true',
    decide_eq_false_iff_not]
  constructor
  · rintro ⟨before, after, rfl, named, last⟩
    refine ⟨named, after.reverse, before.reverse, by simp, ?_⟩
    exact fun q member => last q (List.mem_reverse.mp member)
  · rintro ⟨named, after, before, split, last⟩
    refine ⟨before.reverse, after.reverse, ?_, named, ?_⟩
    · rw [← List.reverse_reverse plugins, split]
      simp
    · exact fun q member => last q (List.mem_reverse.mp member)

theorem plugin?_eq_some_iff {p : Plugin} :
    (ofPlugins plugins).plugin? name = some p ↔ LastNamed plugins name p := by
  rw [plugin?_ofPlugins, lastNamed_iff]

theorem MadeFrom.eq_ofPlugins (made : MadeFrom plugins r) : r = ofPlugins plugins := by
  cases made with
  | list => rfl
  | text document listed read =>
    rw [ofYaml?, document, Option.bind_some, listed] at read
    exact (Option.some.inj read).symm

/-- A plugin that is listed is found. -/
theorem exists_lastNamed (listed : ∃ p ∈ plugins, p.name = name) :
    ∃ p, LastNamed plugins name p := by
  have built : (ofPlugins plugins).Built := .ofPlugins plugins
  obtain ⟨p, found⟩ := (built.hasPlugin_iff name).mp
    ((built.hasPlugin_iff_listed name).mpr (List.mem_map.mpr listed))
  exact ⟨p, plugin?_eq_some_iff.mp found⟩

theorem accepts_iff_lastNamed {plugin command : String}
    (known : ∃ p, LastNamed plugins plugin p) :
    (ofPlugins plugins).Accepts plugin command ↔
      ∀ p, LastNamed plugins plugin p → command ∈ p.commands := by
  obtain ⟨p, last⟩ := known
  have found := plugin?_eq_some_iff.mpr last
  constructor
  · rintro ⟨q, same, accepts⟩ other lastToo
    obtain rfl := Option.some.inj (same.symm.trans (plugin?_eq_some_iff.mpr lastToo))
    exact List.contains_iff_mem.mp accepts
  · intro each
    exact ⟨p, found, List.contains_iff_mem.mpr (each p last)⟩

/-- Registries that are made from plugins, with whatever names repeated, resolve names to the last
plugin that has them, in all that they are asked. -/
theorem MadeFrom.resolves (made : MadeFrom plugins r) : r.Resolves plugins := by
  obtain rfl := made.eq_ofPlugins
  have built : (ofPlugins plugins).Built := .ofPlugins plugins
  have has (name : String) :
      (ofPlugins plugins).hasPlugin name = true ↔ ∃ p ∈ plugins, p.name = name :=
    (built.hasPlugin_iff_listed name).trans List.mem_map
  have known (t : Topology) (valid : t.validate (ofPlugins plugins) = .ok ()) :
      ∀ m ∈ t.modules, ∃ p, LastNamed plugins m.plugin p := by
    intro m member
    have sound := Topology.error?_eq_none_iff.mp (Topology.validate_eq_ok_iff.mp valid)
    exact exists_lastNamed ((has m.plugin).mp (sound.2 m member))
  constructor
  case plugin_iff => exact fun name p => plugin?_eq_some_iff
  case has_iff => exact has
  case require_iff =>
    intro name
    rw [← has, built.hasPlugin_iff, requirePlugin]
    cases (ofPlugins plugins).plugin? name <;> simp
  case indexed => exact fun entry member => mem_indexOf member
  case known => exact known
  case check_iff =>
    intro t valid c
    rw [checkCommand, refuse_eq_ok_iff, commandRefusal?_eq_none_iff_accepts]
    refine forall₂_congr fun sent _ => ?_
    have accepted : (∀ m ∈ t.modules, sent.target.matchesName m.inst = true →
        (ofPlugins plugins).Accepts m.plugin c.id) ↔
          ∀ m ∈ t.modules, sent.target.matchesName m.inst = true →
            ∀ p, LastNamed plugins m.plugin p → c.id ∈ p.commands :=
      forall₃_congr fun m member _ => accepts_iff_lastNamed (known t valid m member)
    rw [← accepted]
    exact ⟨fun accepts => ⟨accepts.accepted, accepts.named⟩, fun accepts => ⟨accepts.1, accepts.2⟩⟩

/-- A name is listed twice. -/
def repeated : List Plugin :=
  [⟨"FakeCardReader", ["conf", "start"]⟩, ⟨"DataLinkHandler", []⟩, ⟨"FakeCardReader", ["conf"]⟩]

def repeatedText : String :=
  "plugins:\n  - name: FakeCardReader\n    commands: [conf, start]\n" ++
    "  - name: DataLinkHandler\n  - name: FakeCardReader\n    commands: [conf]\n"

/-- The later of two readers is found, so that the module of a reader may not start. -/
theorem MadeFrom.resolves_repeated :
    ∃ r, ofYaml? repeatedText = some r ∧ MadeFrom repeated r ∧
      r.plugin? "FakeCardReader" = some ⟨"FakeCardReader", ["conf"]⟩ ∧
      r.hasPlugin "DataWriter" = false ∧
      r.checkCommand ⟨[], [⟨"fake_source", "FakeCardReader", []⟩]⟩
        (.ofPayloads "start" [.ofTarget .any]) ≠ .ok () := by
  have listed : ((Yaml.Document.ofText? repeatedText).bind fun d =>
      ((pluginsOf d).run d.aliasLimit).map (·.1)) = some repeated := by decide +kernel
  obtain ⟨d, document, decoded⟩ := Option.bind_eq_some_iff.mp listed
  obtain ⟨⟨_, left⟩, decoded, rfl⟩ := Option.map_eq_some_iff.mp decoded
  have read : ofYaml? repeatedText = some (ofPlugins repeated) := by
    rw [ofYaml?, document, Option.bind_some, decoded]
    rfl
  have made : MadeFrom repeated (ofPlugins repeated) := .text document decoded read
  have resolves := made.resolves
  have last : LastNamed repeated "FakeCardReader" ⟨"FakeCardReader", ["conf"]⟩ :=
    ⟨repeated.take 2, [], rfl, rfl, by simp⟩
  refine ⟨_, read, made, (resolves.plugin_iff _ _).mpr last, ?_, fun passed => ?_⟩
  · refine Bool.eq_false_iff.mpr fun has => ?_
    exact absurd ((resolves.has_iff "DataWriter").mp has) (by decide)
  · have accepts := (resolves.check_iff _ (by decide) _).mp passed _ (List.mem_singleton_self _)
    have starts := accepts.1 _ (List.mem_singleton_self _) (Address.matchesName_any _) _ last
    exact absurd starts (by decide)

end ReadoutControl.Registry
