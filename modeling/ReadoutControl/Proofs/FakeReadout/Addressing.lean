import ReadoutControl.FakeReadout.Commands
import ReadoutControl.Proofs.Command.Family
import ReadoutControl.Proofs.FakeReadout.Wiring

set_option autoImplicit false

/-!
What the commands of the fake readout address. `conf` names every module, `start` and `stop` reach
each of them through one entry, and the only entry of `scrap` reaches them all.
-/

namespace ReadoutControl.FakeReadout

open Text (numbered)

theorem mem_moduleNames {f : FakeReadout} {name : String} :
    name ∈ f.plan.topology.moduleNames ↔
      name = "fake_source" ∨ (∃ i ∈ f.dataIndices, numbered "datahandler_" i = name) ∨
        ∃ i ∈ f.softwareIndices, numbered "tp_datahandler_" i = name := by
  simp [moduleNames_eq, Text.mem_roster, moduleFamilies]

theorem conf_targets (f : FakeReadout) :
    f.conf.targets = f.plan.topology.moduleNames.map .exact := by
  rw [moduleNames_eq]
  cases software : f.softwareTpg <;>
    simp [Command.targets, Command.addressed, conf, Command.ofPayloads, Addressed.ofPayload,
      Text.roster, moduleFamilies, softwareIndices, software, Function.comp_def]

theorem start_targets (f : FakeReadout) :
    f.start.targets = f.handlers ++ [.exact "fake_source"] := by
  simp [Command.targets, Command.addressed, start, Command.ofPayloads, Addressed.ofPayload,
    Function.comp_def]

theorem stop_targets (f : FakeReadout) : f.stop.targets = .exact "fake_source" :: f.handlers := by
  simp [Command.targets, Command.addressed, stop, Command.ofPayloads, Addressed.ofPayload,
    Function.comp_def]

theorem scrap_targets : scrap.targets = [.any] := rfl

/-- The two families are told apart by the beginnings of their names, and the source is in neither
of them. -/
theorem reached_once {f : FakeReadout} {name : String}
    (member : name ∈ f.plan.topology.moduleNames) :
    (Address.exact "fake_source" :: f.handlers).countP (·.matchesName name) = 1 := by
  have source (stem : String) (i : Nat) : ("fake_source" == numbered stem i) = false := by
    rw [beq_eq_false_iff_ne]
    exact (Text.numbered_ne (by decide) stem i).symm
  rcases mem_moduleNames.mp member with rfl | ⟨i, _, rfl⟩ | ⟨i, number, rfl⟩
  · have data := NamePattern.matchesName_of_apart (p := .dataHandlers) rfl
      (show Text.Apart "datahandler_" "fake_source" by decide)
    have tp := NamePattern.matchesName_of_apart (p := .tpHandlers) rfl
      (show Text.Apart "tp_datahandler_" "fake_source" by decide)
    cases software : f.softwareTpg <;>
      simp [handlers, software, Address.matchesName, data, tp]
  · have data := NamePattern.matchesName_numbered (p := .dataHandlers) rfl i
    have tp := NamePattern.matchesName_numbered_of_apart (p := .tpHandlers) rfl
      (show Text.Apart "tp_datahandler_" "datahandler_" by decide) i
    cases software : f.softwareTpg <;>
      simp [handlers, software, Address.matchesName, data, tp, source]
  · have data := NamePattern.matchesName_numbered_of_apart (p := .dataHandlers) rfl
      (show Text.Apart "datahandler_" "tp_datahandler_" by decide) i
    have tp := NamePattern.matchesName_numbered (p := .tpHandlers) rfl i
    have software := (mem_softwareIndices.mp number).1
    simp [handlers, software, Address.matchesName, data, tp, source]

theorem start_reach {f : FakeReadout} {name : String}
    (member : name ∈ f.plan.topology.moduleNames) : f.start.reach name = 1 := by
  rw [Command.reach_eq, start_targets, ← reached_once member]
  exact List.perm_append_singleton .. |>.countP_eq _

theorem stop_reach {f : FakeReadout} {name : String}
    (member : name ∈ f.plan.topology.moduleNames) : f.stop.reach name = 1 := by
  rw [Command.reach_eq, stop_targets]
  exact reached_once member

end ReadoutControl.FakeReadout
