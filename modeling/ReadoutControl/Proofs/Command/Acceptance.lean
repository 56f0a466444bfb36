import ReadoutControl.Command.Check
import ReadoutControl.Proofs.Plugin.Lookup

set_option autoImplicit false

/-!
When a command may be sent: every module it addresses has a plugin that accepts it, and every exact
address names a module. Where the plugins of all modules are known and all exact addresses are
right, a command can only be refused because a plugin does not accept it.
-/

namespace ReadoutControl

theorem Address.matchesName_text {a : Address} (exact : a.isExact = true) (name : String) :
    a.matchesName name = true ↔ name = a.text := by
  cases a with
  | exact expected => exact beq_iff_eq.trans eq_comm
  | pattern p => simp [isExact] at exact

namespace Command

/-- Some entry of the command reaches the module of that name. -/
def Addresses (c : Command) (name : String) : Prop :=
  ∃ entry ∈ c.addressed, entry.target.matchesName name = true

/-- Every exact address of the command names a module. -/
def NamesModules (c : Command) (t : Topology) : Prop :=
  ∀ entry ∈ c.addressed, entry.target.isExact = true → entry.target.text ∈ t.moduleNames

/-- How many entries of the command reach the module of that name. -/
def reach (c : Command) (name : String) : Nat :=
  c.addressed.countP fun entry => entry.target.matchesName name

def targets (c : Command) : List Address := c.addressed.map (·.target)

theorem reach_eq (c : Command) (name : String) :
    c.reach name = c.targets.countP (·.matchesName name) := by
  simp [reach, targets, List.countP_map, Function.comp_def]

theorem addresses_iff_reach {c : Command} {name : String} : c.Addresses name ↔ 0 < c.reach name :=
  List.countP_pos_iff.symm

theorem addresses_iff_targets {c : Command} {name : String} :
    c.Addresses name ↔ ∃ a ∈ c.targets, a.matchesName name = true := by
  rw [addresses_iff_reach, reach_eq, List.countP_pos_iff]

theorem namesModules_iff_targets {c : Command} {t : Topology} :
    c.NamesModules t ↔ ∀ a ∈ c.targets, a.isExact = true → a.text ∈ t.moduleNames := by
  simp [NamesModules, targets]

section Targets

variable {c : Command} {t : Topology} {name : String}

theorem addresses_of_exact {names : List String} (each : c.targets = names.map .exact)
    (member : name ∈ names) : c.Addresses name := by
  rw [addresses_iff_targets, each]
  exact ⟨.exact name, List.mem_map_of_mem member, beq_self_eq_true name⟩

theorem addresses_of_reach (once : c.reach name = 1) : c.Addresses name := by
  rw [addresses_iff_reach, once]
  exact Nat.one_pos

theorem namesModules_of_exact (each : c.targets = t.moduleNames.map .exact) :
    c.NamesModules t := by
  rw [namesModules_iff_targets, each]
  intro a target _
  obtain ⟨name, member, rfl⟩ := List.mem_map.mp target
  exact member

/-- Without exact addresses no module is named that does not exist. -/
theorem namesModules_of_patterns (patterns : ∀ a ∈ c.targets, a.isExact = false) :
    c.NamesModules t := by
  rw [namesModules_iff_targets]
  intro a target exact
  rw [patterns a target] at exact
  contradiction

end Targets

end Command

namespace Registry

variable {r : Registry} {t : Topology}

theorem moduleRefusal?_eq_none_iff {command : String} {m : DaqModule} :
    r.moduleRefusal? command m = none ↔ r.Accepts m.plugin command := by
  unfold moduleRefusal? Accepts
  cases r.plugin? m.plugin with
  | none => simp
  | some p => simp

theorem entryRefusal?_eq_none_iff {command : String} {entry : Addressed} :
    r.entryRefusal? t command entry = none ↔
      (∀ m ∈ t.modules, entry.target.matchesName m.inst = true → r.Accepts m.plugin command) ∧
        (entry.target.isExact = true → entry.target.text ∈ t.moduleNames) := by
  have accepted : (∀ m ∈ t.modules, entry.target.matchesName m.inst = true →
      r.Accepts m.plugin command) ↔
      (t.modules.filter fun m => entry.target.matchesName m.inst).findSome?
        (r.moduleRefusal? command) = none := by
    simp [List.findSome?_eq_none_iff, moduleRefusal?_eq_none_iff]
  have named (exact : entry.target.isExact = true) :
      (t.modules.filter fun m => entry.target.matchesName m.inst).isEmpty = false ↔
        entry.target.text ∈ t.moduleNames := by
    simp only [List.isEmpty_eq_false_iff_exists_mem, List.mem_filter,
      Address.matchesName_text exact, Topology.moduleNames, List.mem_map]
  rw [accepted]
  simp only [entryRefusal?]
  split
  · next refused => simp [refused]
  · next fine =>
    cases exact : entry.target.isExact with
    | false => simp [fine]
    | true =>
      rw [← named exact]
      cases (t.modules.filter fun m => entry.target.matchesName m.inst).isEmpty <;> simp [fine]

theorem commandRefusal?_eq_none_iff {c : Command} :
    r.commandRefusal? t c = none ↔
      (∀ m ∈ t.modules, c.Addresses m.inst → r.Accepts m.plugin c.id) ∧ c.NamesModules t := by
  simp only [commandRefusal?, List.findSome?_eq_none_iff, entryRefusal?_eq_none_iff]
  constructor
  · intro each
    refine ⟨?_, fun entry member => (each entry member).2⟩
    rintro m here ⟨entry, member, reaches⟩
    exact (each entry member).1 m here reaches
  · rintro ⟨accepted, named⟩ entry member
    exact ⟨fun m here reaches => accepted m here ⟨entry, member, reaches⟩, named entry member⟩

/-- A module of the topology whose plugin does not accept the command. -/
def Unsupported (r : Registry) (t : Topology) (command : String) (e : SchemaError) : Prop :=
  ∃ m ∈ t.modules, ∃ p, r.plugin? m.plugin = some p ∧ p.accepts command = false ∧
    e = .unsupportedCommand command m.inst p.name

theorem unsupported_of_commandRefusal? {c : Command} {e : SchemaError}
    (known : ∀ m ∈ t.modules, ∃ p, r.plugin? m.plugin = some p) (named : c.NamesModules t)
    (refused : r.commandRefusal? t c = some e) : r.Unsupported t c.id e := by
  obtain ⟨entry, member, refused⟩ := List.exists_of_findSome?_eq_some refused
  simp only [entryRefusal?] at refused
  split at refused
  · next found =>
    obtain rfl := Option.some.inj refused
    obtain ⟨m, here, refused⟩ := List.exists_of_findSome?_eq_some found
    have inTopology := (List.mem_filter.mp here).1
    obtain ⟨p, plugin⟩ := known m inTopology
    simp only [moduleRefusal?, plugin, Option.ite_none_left_eq_some, Option.some.injEq] at refused
    exact ⟨m, inTopology, p, plugin, by simpa using refused.1, refused.2.symm⟩
  · next fine =>
    split at refused
    · next lost =>
      obtain ⟨empty, exact⟩ := Bool.and_eq_true_iff.mp lost
      obtain ⟨m, here, same⟩ := List.mem_map.mp (named entry member exact)
      have reached : m ∈ t.modules.filter fun m => entry.target.matchesName m.inst :=
        List.mem_filter.mpr ⟨here, (Address.matchesName_text exact _).mpr same⟩
      rw [List.isEmpty_iff.mp empty] at reached
      simp at reached
    · simp at refused

theorem sequenceRefusal?_of_topology {s : CommandSequence} (carried : s.topology? = some t)
    (sound : t.error? r = none) :
    r.sequenceRefusal? s = s.commands.findSome? (r.commandRefusal? t) := by
  simp [sequenceRefusal?, carried, sound]

end Registry

end ReadoutControl
