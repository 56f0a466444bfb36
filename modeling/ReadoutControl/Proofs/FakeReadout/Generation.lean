import Mathlib.Algebra.Group.Nat.Defs
import ReadoutControl.Proofs.Application.Generation
import ReadoutControl.Proofs.FakeReadout.Addressing

set_option autoImplicit false

/-!
When the fake readout can be generated. As long as its links can be numbered, nothing but the
plugins decides about it.
-/

namespace ReadoutControl.FakeReadout

variable {f : FakeReadout} {r : Registry}

theorem commands_addressed (f : FakeReadout) :
    ∀ c ∈ [f.conf, f.start, f.stop, scrap], ∀ m ∈ f.plan.modules, c.Addresses m.inst := by
  intro c member m here
  have name : m.inst ∈ f.plan.topology.moduleNames := List.mem_map_of_mem here
  simp only [List.mem_cons, List.not_mem_nil, or_false] at member
  rcases member with rfl | rfl | rfl | rfl
  · exact Command.addresses_of_exact f.conf_targets name
  · exact Command.addresses_of_reach (start_reach name)
  · exact Command.addresses_of_reach (stop_reach name)
  · exact Command.addresses_of_any scrap_targets m.inst

theorem handlers_named (f : FakeReadout) : ∀ a ∈ f.handlers, a.isExact = false := by
  cases software : f.softwareTpg <;> simp [handlers, software, Address.isExact]

theorem commands_named (f : FakeReadout) :
    ∀ c ∈ (f.commands f.plan.topology).commands, c.NamesModules f.plan.topology := by
  have source : "fake_source" ∈ f.plan.topology.moduleNames := mem_moduleNames.mpr (.inl rfl)
  have order : ∀ a ∈ Address.exact "fake_source" :: f.handlers, a.isExact = true →
      a.text ∈ f.plan.topology.moduleNames := by
    intro a member exact
    rcases List.mem_cons.mp member with rfl | handler
    · exact source
    · rw [f.handlers_named a handler] at exact
      contradiction
  intro c member
  simp only [commands, List.mem_cons, List.not_mem_nil, or_false] at member
  rcases member with rfl | rfl | rfl | rfl | rfl
  · apply Command.namesModules_of_patterns
    simp [Command.targets, Command.addressed, Command.ofTopology]
  · exact Command.namesModules_of_exact f.conf_targets
  · rw [Command.namesModules_iff_targets, start_targets]
    intro a target
    exact order a ((List.perm_append_singleton ..).mem_iff.mp target)
  · rw [Command.namesModules_iff_targets, stop_targets]
    exact order
  · apply Command.namesModules_of_patterns
    simp [scrap_targets, Address.any, Address.isExact]

theorem coherent (f : FakeReadout) : Registry.Coherent f.plan f.commands where
  wired := f.plan_wired
  carried := rfl
  named := f.commands_named

/-- All plugins of the modules, in terms of the number of links. -/
theorem forall_plugins_iff (f : FakeReadout) (P : String → Prop) :
    (∀ m ∈ f.plan.modules, P m.plugin) ↔
      P "FakeCardReader" ∧ (0 < f.dataLinks → P "DataLinkHandler") := by
  have links : 0 < f.dataLinks ↔ 0 < f.dataLinks.toNat := UInt32.lt_iff_toNat_lt
  simp only [plan_modules, List.forall_mem_cons, List.forall_mem_append, List.forall_mem_map,
    dataHandler, tpHandler, mem_softwareIndices, dataIndices, List.mem_range]
  constructor
  · rintro ⟨source, data, _⟩
    exact ⟨source, fun some_link => data 0 (links.mp some_link)⟩
  · rintro ⟨source, handler⟩
    refine ⟨source, fun i number => ?_, fun i number => ?_⟩
    · exact handler (links.mpr (Nat.zero_lt_of_lt number))
    · exact handler (links.mpr (Nat.zero_lt_of_lt number.2))

theorem softwareLinksFit_iff :
    f.softwareLinksFit = true ↔ (f.softwareTpg = true → 0 < f.dataLinks →
      2 * f.dataLinks.toNat + f.tpLinks.toNat - 1 < UInt32.size) := by
  have links : 0 < f.dataLinks ↔ 0 < f.dataLinks.toNat := UInt32.lt_iff_toNat_lt
  cases software : f.softwareTpg with
  | false => simp [softwareLinksFit, software]
  | true =>
    simp only [softwareLinksFit, software, Bool.not_true, Bool.false_or, List.all_eq_true,
      dataIndices, List.mem_range, decide_eq_true_eq, links, forall_const]
    unfold softwareLink
    constructor
    · intro each some_link
      have last := each (f.dataLinks.toNat - 1) (by omega)
      omega
    · intro bound i number
      have := bound (by omega)
      omega

theorem assemble_of_generate {s : CommandSequence} (generated : f.generate r = .ok s) :
    r.assemble f.plan f.commands = .ok s := by
  unfold generate topology at generated
  split at generated
  · split at generated
    · exact generated
    · cases built : f.plan.build r with
      | error cause =>
        rw [built] at generated
        exact nomatch generated
      | ok t =>
        rw [built] at generated
        exact nomatch generated
  · simp [bind, Except.bind] at generated

theorem generate_eq_assemble (links : f.dataLinks.toNat + f.tpLinks.toNat < UInt32.size)
    (software : f.softwareLinksFit = true) :
    f.generate r = r.assemble f.plan f.commands := by
  simp only [generate, topology, links, software, if_true]
  rfl

/-- A generated sequence is made of the planned topology and its commands. -/
theorem eq_of_generate {s : CommandSequence} (generated : f.generate r = .ok s) :
    s = f.commands f.plan.topology :=
  (f.coherent.assemble_ok_iff.mp (assemble_of_generate generated)).1

theorem assemble_ok_iff (built : r.Built) :
    (∃ s, r.assemble f.plan f.commands = .ok s) ↔
      ∀ m ∈ f.plan.modules, r.Serves m.plugin ["conf", "start", "stop", "scrap"] := by
  simp only [f.coherent.assemble_ok_iff, exists_eq_left, Registry.serves_iff (List.cons_ne_nil _ _)]
  constructor
  · rintro ⟨_, accepts⟩ m member
    have each : ∀ c ∈ [f.conf, f.start, f.stop, scrap], r.Accepts m.plugin c.id := fun c command =>
      accepts c (List.mem_cons_of_mem _ command) m member (f.commands_addressed c command m member)
    exact List.forall_mem_map.mpr each
  · intro serves
    refine ⟨fun m member => ?_, fun c command m member addressed => ?_⟩
    · obtain ⟨p, found, _⟩ := serves m member "conf" (List.mem_cons_self ..)
      exact (built.hasPlugin_iff m.plugin).mpr ⟨p, found⟩
    · rcases List.mem_cons.mp command with rfl | command
      · simp [Command.Addresses, Command.addressed, Command.ofTopology] at addressed
      · have each : ∀ c ∈ [f.conf, f.start, f.stop, scrap], r.Accepts m.plugin c.id :=
          List.forall_mem_map.mp (serves m member)
        exact each c command

theorem builtin_serves_modules (f : FakeReadout) : ∀ m ∈ f.plan.modules,
    Registry.builtin.Serves m.plugin ["conf", "start", "stop", "scrap"] := by
  rw [f.forall_plugins_iff fun plugin => Registry.builtin.Serves plugin
    ["conf", "start", "stop", "scrap"]]
  exact ⟨by decide, fun _ => by decide⟩

theorem generate_builtin_ok (links : f.dataLinks.toNat + f.tpLinks.toNat < UInt32.size)
    (software : f.softwareLinksFit = true) : ∃ s, f.generate .builtin = .ok s := by
  rw [generate_eq_assemble links software]
  exact (assemble_ok_iff .builtin).mpr f.builtin_serves_modules

/-- If all links can be numbered, generation succeeds exactly for a registry whose card reader and,
if there are links, whose link handler accept the four commands. A fault lies with these plugins,
for the topology is always wired. -/
theorem generate_ok_iff (built : r.Built)
    (links : f.dataLinks.toNat + f.tpLinks.toNat ≤ 2 ^ 32 - 1)
    (software : f.softwareTpg = true → 0 < f.dataLinks →
      2 * f.dataLinks.toNat + f.tpLinks.toNat - 1 ≤ 2 ^ 32 - 1) :
    ((∃ s, f.generate r = .ok s) ↔
        r.Serves "FakeCardReader" ["conf", "start", "stop", "scrap"] ∧
          (0 < f.dataLinks → r.Serves "DataLinkHandler" ["conf", "start", "stop", "scrap"])) ∧
      (∀ e, f.generate r = .error e → e.OfPlugin) ∧
      (∀ s, f.generate r = .ok s → s.topology? = some f.plan.topology) ∧
      f.plan.topology.Wired ∧ ∃ s, f.generate .builtin = .ok s := by
  have linksFit : f.dataLinks.toNat + f.tpLinks.toNat < UInt32.size := Nat.lt_succ_of_le links
  have softwareFits : f.softwareLinksFit = true := softwareLinksFit_iff.mpr fun on some_link =>
    Nat.lt_succ_of_le (software on some_link)
  have assembled : f.generate r = r.assemble f.plan f.commands :=
    generate_eq_assemble linksFit softwareFits
  refine ⟨?_, ?_, ?_, f.plan_wired, generate_builtin_ok linksFit softwareFits⟩
  · rw [assembled, assemble_ok_iff built]
    exact f.forall_plugins_iff fun plugin => r.Serves plugin ["conf", "start", "stop", "scrap"]
  · intro e refused
    exact f.coherent.assemble_error built (assembled ▸ refused)
  · intro s generated
    obtain rfl := eq_of_generate generated
    exact f.coherent.carried

/-- A registry of no more than the two plugins serves a link with trigger primitives from software,
one without the handler does not. -/
theorem generate_ok_software :
    (∃ s, generate { standard with softwareTpg := true }
      (.ofPlugins [⟨"FakeCardReader", ["conf", "start", "stop", "scrap"]⟩,
        ⟨"DataLinkHandler", ["conf", "start", "stop", "scrap"]⟩]) = .ok s) ∧
      ¬ ∃ s, generate { standard with softwareTpg := true }
        (.ofPlugins [⟨"FakeCardReader", ["conf", "start", "stop", "scrap"]⟩]) = .ok s := by
  constructor
  · exact (generate_ok_iff (.ofPlugins _) (by decide) (by decide)).1.mpr (by decide)
  · rw [(generate_ok_iff (.ofPlugins _) (by decide) (by decide)).1]
    decide

end ReadoutControl.FakeReadout
