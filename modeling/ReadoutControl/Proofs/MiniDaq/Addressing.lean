import ReadoutControl.MiniDaq.Commands
import ReadoutControl.Proofs.Command.Family
import ReadoutControl.Proofs.MiniDaq.Wiring

set_option autoImplicit false

/-!
What the commands of the mini DAQ address. Starting and stopping follow different orders of the same
addresses, resuming is left to the trigger, and a recording is commanded to the data handlers alone.
-/

namespace ReadoutControl.MiniDaq

open Text (numbered)

theorem mem_moduleNames {m : MiniDaq} {name : String} :
    name ∈ m.plan.topology.moduleNames ↔
      name ∈ moduleSingles ∨ (∃ i ∈ m.indices, numbered "datahandler_" i = name) ∨
        ∃ i ∈ m.indices, numbered "data_recorder_" i = name := by
  simp [moduleNames_eq, Text.mem_roster, moduleFamilies]

theorem conf_targets (m : MiniDaq) (tokens : TokenSplit) :
    (m.conf tokens).targets = m.plan.topology.moduleNames.map .exact := by
  rw [moduleNames_eq]
  simp [Command.targets, Command.addressed, conf, Command.ofPayloads, Command.withStates,
    Addressed.ofPayload, Text.roster, moduleFamilies, moduleSingles, Function.comp_def]

theorem start_targets (m : MiniDaq) : m.start.targets = startOrder := by
  simp [Command.targets, Command.addressed, start, Command.ofPayloads, Command.withStates,
    Addressed.ofPayload, Function.comp_def]

theorem stop_targets : stop.targets = stopOrder := by
  simp [Command.targets, Command.addressed, stop, Command.ofPayloads, Command.withStates,
    Addressed.ofTarget, Function.comp_def]

theorem pause_targets : pause.targets = [.any] := rfl

theorem resume_targets (m : MiniDaq) : m.resume.targets = [.exact "tde"] := rfl

theorem record_targets (seconds : UInt32) :
    (record seconds).targets = [.pattern .dataHandlers] := rfl

theorem scrap_targets : scrap.targets = [.any] := rfl

/-- The addresses of single modules and the patterns of the two families keep out of each other's
way. -/
theorem single_apart : ∀ name ∈ moduleSingles, Text.isStem name = true ∧
    Text.Apart "datahandler_" name ∧ Text.Apart "data_recorder_" name := by
  decide

theorem dataHandlers_single {name : String} (single : name ∈ moduleSingles) :
    NamePattern.dataHandlers.matchesName name = false :=
  NamePattern.matchesName_of_apart rfl (single_apart name single).2.1

theorem recorders_single {name : String} (single : name ∈ moduleSingles) :
    NamePattern.recorders.matchesName name = false :=
  NamePattern.matchesName_of_apart rfl (single_apart name single).2.2

theorem dataHandlers_recorder (i : Nat) :
    NamePattern.dataHandlers.matchesName (numbered "data_recorder_" i) = false :=
  NamePattern.matchesName_numbered_of_apart rfl (by decide) i

theorem recorders_dataHandler (i : Nat) :
    NamePattern.recorders.matchesName (numbered "datahandler_" i) = false :=
  NamePattern.matchesName_numbered_of_apart rfl (by decide) i

theorem single_beq_numbered {name : String} (single : name ∈ moduleSingles) (stem : String)
    (i : Nat) : (name == numbered stem i) = false := by
  rw [beq_eq_false_iff_ne]
  exact (Text.numbered_ne (single_apart name single).1 stem i).symm

theorem reached_once {m : MiniDaq} {name : String}
    (member : name ∈ m.plan.topology.moduleNames) :
    startOrder.countP (·.matchesName name) = 1 := by
  have fixed (stem : String) (i : Nat) : ∀ single ∈ moduleSingles,
      (single == numbered stem i) = false := fun _ single => single_beq_numbered single stem i
  simp only [moduleSingles, List.forall_mem_cons] at fixed
  rcases mem_moduleNames.mp member with single | ⟨i, _, rfl⟩ | ⟨i, _, rfl⟩
  · have data := dataHandlers_single single
    have recorder := recorders_single single
    simp only [moduleSingles, List.mem_cons, List.not_mem_nil, or_false] at single
    rcases single with rfl | rfl | rfl | rfl | rfl <;>
      simp [startOrder, Address.matchesName, data, recorder]
  · have data := NamePattern.matchesName_numbered (p := .dataHandlers) rfl i
    simp [startOrder, Address.matchesName, data, recorders_dataHandler, fixed]
  · have recorder := NamePattern.matchesName_numbered (p := .recorders) rfl i
    simp [startOrder, Address.matchesName, recorder, dataHandlers_recorder, fixed]

theorem stopOrder_perm : startOrder.Perm stopOrder := by decide

theorem start_reach {m : MiniDaq} {name : String}
    (member : name ∈ m.plan.topology.moduleNames) : m.start.reach name = 1 := by
  rw [Command.reach_eq, start_targets]
  exact reached_once member

theorem stop_reach {m : MiniDaq} {name : String}
    (member : name ∈ m.plan.topology.moduleNames) : stop.reach name = 1 := by
  rw [Command.reach_eq, stop_targets, ← stopOrder_perm.countP_eq]
  exact reached_once member

theorem resume_addresses_iff {m : MiniDaq} {name : String} :
    m.resume.Addresses name ↔ name = "tde" := by
  simp only [Command.addresses_iff_targets, resume_targets, List.mem_singleton, exists_eq_left,
    Address.matchesName, beq_iff_eq]
  exact eq_comm

theorem tde_mem (m : MiniDaq) : "tde" ∈ m.plan.topology.moduleNames :=
  mem_moduleNames.mpr (.inl (by decide))

theorem plugin_tde {m : MiniDaq} {d : DaqModule} (member : d ∈ m.plan.modules)
    (tde : d.inst = "tde") : d.plugin = "TriggerDecisionEmulator" := by
  have other (stem : String) (i : Nat) : numbered stem i ≠ "tde" :=
    Text.numbered_ne (by decide) stem i
  rw [plan_modules, List.mem_append, List.mem_append] at member
  rcases member with single | handler | recorder
  · simp only [List.mem_cons, List.not_mem_nil, or_false] at single
    rcases single with rfl | rfl | rfl | rfl | rfl
    · rfl
    all_goals
      revert tde
      simp
  · obtain ⟨i, _, rfl⟩ := List.mem_map.mp handler
    exact absurd tde (other "datahandler_" i)
  · obtain ⟨i, _, rfl⟩ := List.mem_map.mp recorder
    exact absurd tde (other "data_recorder_" i)

/-- A recording reaches the modules of the link handler plugin and no others. -/
theorem record_addresses_iff {m : MiniDaq} {seconds : UInt32} {d : DaqModule}
    (member : d ∈ m.plan.modules) :
    (record seconds).Addresses d.inst ↔ d.plugin = "DataLinkHandler" := by
  have target : (record seconds).Addresses d.inst ↔
      NamePattern.dataHandlers.matchesName d.inst = true := by
    simp [Command.addresses_iff_targets, record_targets, Address.matchesName]
  rw [target]
  rw [plan_modules, List.mem_append, List.mem_append] at member
  rcases member with single | handler | recorder
  · have apart : d.inst ∈ moduleSingles ∧ d.plugin ≠ "DataLinkHandler" := by
      simp only [List.mem_cons, List.not_mem_nil, or_false] at single
      rcases single with rfl | rfl | rfl | rfl | rfl <;> simp [moduleSingles]
    simp [dataHandlers_single apart.1, apart.2]
  · obtain ⟨i, _, rfl⟩ := List.mem_map.mp handler
    simp [dataHandler, NamePattern.matchesName_numbered (p := .dataHandlers) rfl i]
  · obtain ⟨i, _, rfl⟩ := List.mem_map.mp recorder
    simp [MiniDaq.recorder, dataHandlers_recorder]

end ReadoutControl.MiniDaq
