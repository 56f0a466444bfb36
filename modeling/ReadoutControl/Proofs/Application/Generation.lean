import ReadoutControl.Application.Fault
import ReadoutControl.Proofs.Command.Acceptance
import ReadoutControl.Proofs.Topology.Wiring

set_option autoImplicit false

/-!
Building a topology and checking the commands made from it. Where the topology is wired and the
commands name its modules, all that is left to refuse is a plugin that is missing or does not accept
a command.
-/

namespace ReadoutControl

/-- Faults that lie with the plugins of the registry. -/
inductive Fault.OfPlugin : Fault → Prop
  | unknown (module plugin : String) : OfPlugin (.topology (.unknownPlugin module plugin))
  | unsupported (command module plugin : String) :
    OfPlugin (.sequence (.unsupportedCommand command module plugin))

namespace Registry

/-- The commands of the topology that is planned, if topology and commands pass their checks. -/
def assemble (r : Registry) (p : Plan) (commands : Topology → CommandSequence) :
    Except Fault CommandSequence := do
  let t ← (p.build r).mapError .topology
  (r.checkSequence (commands t)).mapError .sequence
  return commands t

/-- A plan whose commands can only be refused for the plugins. -/
structure Coherent (p : Plan) (commands : Topology → CommandSequence) : Prop where
  wired : p.topology.Wired
  carried : (commands p.topology).topology? = some p.topology
  named : ∀ c ∈ (commands p.topology).commands, c.NamesModules p.topology

namespace Coherent

variable {p : Plan} {commands : Topology → CommandSequence} {r : Registry}

theorem assemble_eq (coherent : Coherent p commands) (r : Registry) :
    r.assemble p commands = match p.modules.find? fun m => !r.hasPlugin m.plugin with
      | some m => .error (.topology (.unknownPlugin m.inst m.plugin))
      | none =>
        match (commands p.topology).commands.findSome? (r.commandRefusal? p.topology) with
        | some e => .error (.sequence e)
        | none => .ok (commands p.topology) := by
  have built := Plan.build_eq coherent.wired r
  cases unknown : p.modules.find? fun m => !r.hasPlugin m.plugin with
  | some m =>
    simp only [unknown] at built
    rw [assemble, built]
    rfl
  | none =>
    simp only [unknown] at built
    have sound : p.topology.error? r = none := by
      rw [coherent.wired.error?_eq]
      exact Option.map_eq_none_iff.mpr unknown
    have refusal := sequenceRefusal?_of_topology coherent.carried sound
    have checked : r.assemble p commands = do
        (refuse (r.sequenceRefusal? (commands p.topology))).mapError .sequence
        return commands p.topology := by
      rw [assemble, built]
      rfl
    rw [checked, refusal]
    cases (commands p.topology).commands.findSome? (r.commandRefusal? p.topology) <;> rfl

/-- The commands come out exactly if every module has a plugin, and one that accepts all commands
that address the module. -/
theorem assemble_ok_iff (coherent : Coherent p commands) {s : CommandSequence} :
    r.assemble p commands = .ok s ↔
      s = commands p.topology ∧ (∀ m ∈ p.modules, r.hasPlugin m.plugin = true) ∧
        ∀ c ∈ s.commands, ∀ m ∈ p.modules, c.Addresses m.inst → r.Accepts m.plugin c.id := by
  have accepted : (commands p.topology).commands.findSome? (r.commandRefusal? p.topology) = none ↔
      ∀ c ∈ (commands p.topology).commands, ∀ m ∈ p.modules, c.Addresses m.inst →
        r.Accepts m.plugin c.id := by
    simp only [List.findSome?_eq_none_iff, commandRefusal?_eq_none_iff]
    exact ⟨fun each c member => (each c member).1,
      fun each c member => ⟨each c member, coherent.named c member⟩⟩
  have known : p.modules.find? (fun m => !r.hasPlugin m.plugin) = none ↔
      ∀ m ∈ p.modules, r.hasPlugin m.plugin = true := by
    simp
  rw [coherent.assemble_eq, ← known]
  cases p.modules.find? fun m => !r.hasPlugin m.plugin with
  | some m => simp
  | none =>
    constructor
    · intro assembled
      cases refusal : (commands p.topology).commands.findSome? (r.commandRefusal? p.topology) with
      | some e => simp [refusal] at assembled
      | none =>
        simp only [refusal, Except.ok.injEq] at assembled
        subst assembled
        exact ⟨rfl, rfl, accepted.mp refusal⟩
    · rintro ⟨rfl, _, accepts⟩
      simp only [accepted.mpr accepts]

theorem assemble_error (coherent : Coherent p commands) (built : r.Built) {e : Fault}
    (refused : r.assemble p commands = .error e) : e.OfPlugin := by
  rw [coherent.assemble_eq] at refused
  cases unknown : p.modules.find? fun m => !r.hasPlugin m.plugin with
  | some m =>
    simp only [unknown, Except.error.injEq] at refused
    exact refused ▸ .unknown m.inst m.plugin
  | none =>
    have known : ∀ m ∈ p.topology.modules, ∃ plugin, r.plugin? m.plugin = some plugin := by
      intro m member
      have has := List.find?_eq_none.mp unknown m member
      exact (built.hasPlugin_iff m.plugin).mp (by simpa using has)
    cases refusal : (commands p.topology).commands.findSome? (r.commandRefusal? p.topology) with
    | none => simp [unknown, refusal] at refused
    | some cause =>
      simp only [unknown, refusal, Except.error.injEq] at refused
      obtain ⟨c, member, found⟩ := List.exists_of_findSome?_eq_some refusal
      obtain ⟨m, _, plugin, _, _, rfl⟩ :=
        unsupported_of_commandRefusal? known (coherent.named c member) found
      exact refused ▸ .unsupported c.id m.inst plugin.name

end Coherent

end Registry

end ReadoutControl
