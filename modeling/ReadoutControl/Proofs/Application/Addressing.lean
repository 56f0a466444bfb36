import ReadoutControl.Proofs.FakeReadout.Generation
import ReadoutControl.Proofs.MiniDaq.Generation

set_option autoImplicit false

/-!
The commands of every generated sequence reach the modules they are meant for, whatever the number
of links, the other settings and the registry.
-/

namespace ReadoutControl

/-- Which modules of the topology the commands address. `conf` names every module once and in order,
every module starts and stops through one entry, and `pause` and `scrap` reach everything through
their only one. -/
structure CommandSequence.WellAddressed (s : CommandSequence) (t : Topology) : Prop where
  carried : s.topology? = some t
  conf : ∀ c ∈ s.commands, c.id = "conf" → c.targets = t.moduleNames.map .exact
  names_nodup : t.moduleNames.Nodup
  once : ∀ c ∈ s.commands, c.id ∈ ["start", "stop"] → ∀ m ∈ t.modules, c.reach m.inst = 1
  everything : ∀ c ∈ s.commands, c.id ∈ ["pause", "scrap"] →
    ∃ entry, c.addressed = [entry] ∧ ∀ m ∈ t.modules, entry.target.matchesName m.inst = true
  resume : ∀ c ∈ s.commands, c.id = "resume" →
    "tde" ∈ t.moduleNames ∧ ∀ m ∈ t.modules, c.Addresses m.inst ↔ m.inst = "tde"
  record : ∀ c ∈ s.commands, c.id = "record" →
    ∀ m ∈ t.modules, c.Addresses m.inst ↔ m.plugin = "DataLinkHandler"

namespace CommandSequence

variable {s : CommandSequence} {c d : Command}

theorem id_mem (member : c ∈ s.commands) : c.id ∈ s.ids := List.mem_map_of_mem member

/-- Where identifiers are distinct, they tell the commands apart. -/
theorem eq_of_same_id (distinct : s.ids.Nodup) (hc : c ∈ s.commands) (hd : d ∈ s.commands)
    (same : c.id = d.id) : c = d := by
  obtain ⟨commands⟩ := s
  induction commands with
  | nil => simp at hc
  | cons first rest ih =>
    simp only [ids, List.map_cons, List.nodup_cons] at distinct
    have apart : ∀ later ∈ rest, first.id ≠ later.id := fun later member id =>
      distinct.1 (id ▸ List.mem_map_of_mem member)
    rcases List.mem_cons.mp hc with rfl | cLater <;> rcases List.mem_cons.mp hd with rfl | dLater
    · rfl
    · exact absurd same (apart d dLater)
    · exact absurd same.symm (apart c cLater)
    · exact ih distinct.2 cLater dLater

end CommandSequence

namespace FakeReadout

theorem ids_commands (f : FakeReadout) (t : Topology) :
    (f.commands t).ids = ["init", "conf", "start", "stop", "scrap"] := rfl

theorem commands_wellAddressed (f : FakeReadout) :
    (f.commands f.plan.topology).WellAddressed f.plan.topology := by
  have ids := f.ids_commands f.plan.topology
  have distinct : (f.commands f.plan.topology).ids.Nodup := by
    rw [ids]
    decide
  have name {m : DaqModule} (here : m ∈ f.plan.topology.modules) :
      m.inst ∈ f.plan.topology.moduleNames := List.mem_map_of_mem here
  have same {c d : Command} (hc : c ∈ (f.commands f.plan.topology).commands)
      (hd : d ∈ (f.commands f.plan.topology).commands) (id : c.id = d.id) : c = d :=
    CommandSequence.eq_of_same_id distinct hc hd id
  refine ⟨rfl, ?_, f.plan_wired.modules_nodup, ?_, ?_, ?_, ?_⟩
  · intro c member id
    obtain rfl : c = f.conf := same member (by simp [commands]) id
    exact f.conf_targets
  · intro c member id m here
    simp only [List.mem_cons, List.not_mem_nil, or_false] at id
    rcases id with id | id
    · obtain rfl : c = f.start := same member (by simp [commands]) id
      exact start_reach (name here)
    · obtain rfl : c = f.stop := same member (by simp [commands]) id
      exact stop_reach (name here)
  · intro c member id
    simp only [List.mem_cons, List.not_mem_nil, or_false] at id
    rcases id with id | id
    · have absent := CommandSequence.id_mem member
      simp [id, ids] at absent
    · obtain rfl : c = scrap := same member (by simp [commands]) id
      exact ⟨_, rfl, fun m _ => Address.matchesName_any m.inst⟩
  · intro c member id
    have absent := CommandSequence.id_mem member
    simp [id, ids] at absent
  · intro c member id
    have absent := CommandSequence.id_mem member
    simp [id, ids] at absent

end FakeReadout

namespace MiniDaq

theorem ids_commands (m : MiniDaq) (tokens : TokenSplit) (t : Topology) :
    (m.commands tokens t).ids = ["init", "conf", "start", "stop", "pause", "resume"] ++
      (if m.recordSeconds.isSome then ["record"] else []) ++ ["scrap"] := by
  cases recorded : m.recordSeconds <;>
    simp [CommandSequence.ids, commands, recorded, Command.ofTopology, Command.ofPayloads,
      Command.withStates, conf, start, stop, pause, resume, record, scrap]

theorem commands_wellAddressed (m : MiniDaq) (tokens : TokenSplit) :
    (m.commands tokens m.plan.topology).WellAddressed m.plan.topology := by
  have ids := m.ids_commands tokens m.plan.topology
  have distinct : (m.commands tokens m.plan.topology).ids.Nodup := by
    rw [ids]
    cases m.recordSeconds.isSome <;> decide
  have name {d : DaqModule} (here : d ∈ m.plan.topology.modules) :
      d.inst ∈ m.plan.topology.moduleNames := List.mem_map_of_mem here
  have same {c d : Command} (hc : c ∈ (m.commands tokens m.plan.topology).commands)
      (hd : d ∈ (m.commands tokens m.plan.topology).commands) (id : c.id = d.id) : c = d :=
    CommandSequence.eq_of_same_id distinct hc hd id
  refine ⟨rfl, ?_, m.plan_wired.modules_nodup, ?_, ?_, ?_, ?_⟩
  · intro c member id
    obtain rfl : c = m.conf tokens := same member (by simp [commands]) id
    exact m.conf_targets tokens
  · intro c member id d here
    simp only [List.mem_cons, List.not_mem_nil, or_false] at id
    rcases id with id | id
    · obtain rfl : c = m.start := same member (by simp [commands]) id
      exact start_reach (name here)
    · obtain rfl : c = stop := same member (by simp [commands]) id
      exact stop_reach (name here)
  · intro c member id
    simp only [List.mem_cons, List.not_mem_nil, or_false] at id
    rcases id with id | id
    · obtain rfl : c = pause := same member (by simp [commands]) id
      exact ⟨_, rfl, fun d _ => Address.matchesName_any d.inst⟩
    · obtain rfl : c = scrap := same member (by simp [commands]) id
      exact ⟨_, rfl, fun d _ => Address.matchesName_any d.inst⟩
  · intro c member id
    obtain rfl : c = m.resume := same member (by simp [commands]) id
    exact ⟨m.tde_mem, fun d _ => resume_addresses_iff⟩
  · intro c member id
    cases recorded : m.recordSeconds with
    | none =>
      have absent := CommandSequence.id_mem member
      simp [id, ids, recorded] at absent
    | some seconds =>
      obtain rfl : c = record seconds := same member (by simp [commands, recorded]) id
      exact fun d here => record_addresses_iff here

end MiniDaq

/-- Generated sequences of both applications address their modules as intended. -/
theorem generated_wellAddressed :
    (∀ (f : FakeReadout) (r : Registry) (s : CommandSequence), f.generate r = .ok s →
      s.ids = ["init", "conf", "start", "stop", "scrap"] ∧ ∃ t, s.WellAddressed t) ∧
    ∀ (m : MiniDaq) (r : Registry) (s : CommandSequence), m.generate r = .ok s →
      s.ids = ["init", "conf", "start", "stop", "pause", "resume"] ++
        (if m.recordSeconds.isSome then ["record"] else []) ++ ["scrap"] ∧
      ∃ t, s.WellAddressed t := by
  constructor
  · intro f r s generated
    obtain rfl := FakeReadout.eq_of_generate generated
    exact ⟨f.ids_commands f.plan.topology, f.plan.topology, f.commands_wellAddressed⟩
  · intro m r s generated
    obtain ⟨tokens, _, rfl⟩ := MiniDaq.eq_of_generate generated
    exact ⟨m.ids_commands tokens m.plan.topology, m.plan.topology, m.commands_wellAddressed tokens⟩

/-- The standard applications are generated with the builtin plugins, so they are well addressed. -/
theorem standard_wellAddressed :
    (∃ s t, FakeReadout.standard.generate .builtin = .ok s ∧ s.WellAddressed t) ∧
      ∃ s t, MiniDaq.standard.generate .builtin = .ok s ∧ s.WellAddressed t := by
  constructor
  · obtain ⟨s, generated⟩ :=
      FakeReadout.standard.generate_builtin_ok (by decide) (by decide)
    obtain ⟨_, t, addressed⟩ := generated_wellAddressed.1 _ _ s generated
    exact ⟨s, t, generated, addressed⟩
  · have split : TokenSplit.ofCount? MiniDaq.standard.tokenCount = some ⟨10, 0⟩ := by decide
    obtain ⟨s, generated⟩ := MiniDaq.generate_builtin_ok split
    obtain ⟨_, t, addressed⟩ := generated_wellAddressed.2 _ _ s generated
    exact ⟨s, t, generated, addressed⟩

end ReadoutControl
