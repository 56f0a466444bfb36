import ReadoutControl.Proofs.Command.Family
import ReadoutControl.Proofs.Json.Value
import ReadoutControl.Proofs.Topology.Violation

set_option autoImplicit false

/-!
Which refusal is reported for a sequence of commands. A sequence passes exactly if it carries no
topology, or a sound one whose modules accept the commands that reach them and are named rightly.
Every other sequence is refused for its topology or for the first entry that is at fault. A plugin
that is missing is always found with the topology, so no command is refused for it.
-/

namespace ReadoutControl

theorem findSome?_filter {α β : Type} (p : α → Bool) (f : α → Option β) (xs : List α) :
    (xs.filter p).findSome? f = xs.findSome? fun x => if p x then f x else none := by
  induction xs with
  | nil => rfl
  | cons x rest ih => cases reached : p x <;> simp [List.findSome?_cons, reached, ih]

namespace Registry

/-- Every module that the entry reaches accepts the command, and an exact address names a
module. -/
structure AcceptsEntry (r : Registry) (t : Topology) (command : String) (entry : Addressed) :
    Prop where
  accepted : ∀ m ∈ t.modules, entry.target.matchesName m.inst = true → r.Accepts m.plugin command
  named : ∀ name, entry.target = .exact name → ∃ m ∈ t.modules, m.inst = name

/-- Why an entry is refused: the first module that it reaches and that does not accept the command,
or else no module of the name it gives. -/
inductive EntryFault (r : Registry) (t : Topology) (command : String) (entry : Addressed) :
    SchemaError → Prop
  | unsupported {early late : List DaqModule} {m : DaqModule} {p : Plugin} :
    t.modules = early ++ m :: late →
    (∀ other ∈ early, entry.target.matchesName other.inst = true →
      r.Accepts other.plugin command) →
    entry.target.matchesName m.inst = true → r.plugin? m.plugin = some p → p.name = m.plugin →
    p.accepts command = false →
    EntryFault r t command entry (.unsupportedCommand command m.inst m.plugin)
  | unknownModule {name : String} :
    entry.target = .exact name → (∀ m ∈ t.modules, m.inst ≠ name) →
    EntryFault r t command entry (.unknownModule command name)

/-- The refusal to report: of the first topology, else of the first entry at fault in the first
command that has one. -/
inductive FirstRefusal (r : Registry) (s : CommandSequence) : SchemaError → Prop
  | topology {t : Topology} {e : TopologyError} :
    s.topology? = some t → t.validate r = .error e → FirstRefusal r s (.topology e)
  | command {t : Topology} {early late : List Command} {c : Command} {before after : List Addressed}
    {entry : Addressed} {e : SchemaError} :
    s.topology? = some t → t.validate r = .ok () → s.commands = early ++ c :: late →
    (∀ other ∈ early, ∀ sent ∈ other.addressed, r.AcceptsEntry t other.id sent) →
    c.addressed = before ++ entry :: after →
    (∀ sent ∈ before, r.AcceptsEntry t c.id sent) → r.EntryFault t c.id entry e →
    FirstRefusal r s e

variable {r : Registry} {t : Topology} {command : String} {entry : Addressed} {e : SchemaError}

theorem acceptsEntry_iff :
    r.AcceptsEntry t command entry ↔ r.entryRefusal? t command entry = none := by
  have named : (∀ name, entry.target = .exact name → ∃ m ∈ t.modules, m.inst = name) ↔
      (entry.target.isExact = true → entry.target.text ∈ t.moduleNames) := by
    cases entry.target <;> simp [Address.isExact, Address.text, Topology.moduleNames]
  rw [entryRefusal?_eq_none_iff, ← named]
  constructor
  · rintro ⟨accepted, named⟩
    exact ⟨accepted, named⟩
  · rintro ⟨accepted, named⟩
    exact ⟨accepted, named⟩

/-- A module with a known plugin is only refused because the plugin does not accept the
command. -/
theorem moduleRefusal?_eq_some_iff {m : DaqModule}
    (known : ∃ p, r.plugin? m.plugin = some p ∧ p.name = m.plugin) :
    r.moduleRefusal? command m = some e ↔
      ∃ p, r.plugin? m.plugin = some p ∧ p.name = m.plugin ∧ p.accepts command = false ∧
        e = .unsupportedCommand command m.inst m.plugin := by
  obtain ⟨p, found, named⟩ := known
  simp only [moduleRefusal?, found, named, Option.some.injEq, exists_eq_left', true_and]
  cases p.accepts command <;> simp [eq_comm (a := e)]

theorem reachedRefusal?_eq_some_iff
    (known : ∀ m ∈ t.modules, ∃ p, r.plugin? m.plugin = some p ∧ p.name = m.plugin) :
    (t.modules.filter fun m => entry.target.matchesName m.inst).findSome?
        (r.moduleRefusal? command) = some e ↔
      ∃ early m late p, t.modules = early ++ m :: late ∧
        (∀ other ∈ early, entry.target.matchesName other.inst = true →
          r.Accepts other.plugin command) ∧
        entry.target.matchesName m.inst = true ∧ r.plugin? m.plugin = some p ∧
        p.name = m.plugin ∧ p.accepts command = false ∧
        e = .unsupportedCommand command m.inst m.plugin := by
  simp only [findSome?_filter, List.findSome?_eq_some_iff, Option.ite_none_right_eq_some]
  constructor
  · rintro ⟨early, m, late, modules, ⟨reached, refused⟩, passed⟩
    have here : m ∈ t.modules := modules ▸ List.mem_append_right _ (List.mem_cons_self ..)
    obtain ⟨p, fault⟩ := (moduleRefusal?_eq_some_iff (known m here)).mp refused
    refine ⟨early, m, late, p, modules, fun other member reaches => ?_, reached, fault⟩
    have fine := passed other member
    rwa [if_pos reaches, moduleRefusal?_eq_none_iff] at fine
  · rintro ⟨early, m, late, p, modules, passed, reached, fault⟩
    have here : m ∈ t.modules := modules ▸ List.mem_append_right _ (List.mem_cons_self ..)
    refine ⟨early, m, late, modules,
      ⟨reached, (moduleRefusal?_eq_some_iff (known m here)).mpr ⟨p, fault⟩⟩, ?_⟩
    intro other member
    split
    · next reaches => exact moduleRefusal?_eq_none_iff.mpr (passed other member reaches)
    · rfl

theorem entryRefusal?_eq_some_iff
    (known : ∀ m ∈ t.modules, ∃ p, r.plugin? m.plugin = some p ∧ p.name = m.plugin) :
    r.entryRefusal? t command entry = some e ↔ r.EntryFault t command entry e := by
  constructor
  · intro refused
    simp only [entryRefusal?] at refused
    split at refused
    · next cause first =>
      obtain rfl := Option.some.inj refused
      obtain ⟨early, m, late, p, modules, passed, reached, found, named, refuses, rfl⟩ :=
        (reachedRefusal?_eq_some_iff known).mp first
      exact .unsupported modules passed reached found named refuses
    · obtain ⟨lost, same⟩ := Option.ite_none_right_eq_some.mp refused
      obtain rfl := Option.some.inj same
      obtain ⟨empty, exact⟩ := Bool.and_eq_true_iff.mp lost
      cases target : entry.target with
      | pattern p => simp [target, Address.isExact] at exact
      | exact name =>
        refine .unknownModule target fun m here same => ?_
        exact List.filter_eq_nil_iff.mp (List.isEmpty_iff.mp empty) m here
          (by simp [target, Address.matchesName, Address.text, same])
  · intro fault
    cases fault with
    | unsupported modules passed reached found named refuses =>
      have first := (reachedRefusal?_eq_some_iff known).mpr
        ⟨_, _, _, _, modules, passed, reached, found, named, refuses, rfl⟩
      simp only [entryRefusal?, first]
    | @unknownModule name target absent =>
      have unreached : (t.modules.filter fun m => entry.target.matchesName m.inst) = [] := by
        refine List.filter_eq_nil_iff.mpr fun m here reached => ?_
        rw [target] at reached
        exact absent m here (beq_iff_eq.mp reached).symm
      simp only [entryRefusal?, unreached]
      simp [target, Address.isExact, Address.text]

/-- Where a topology has passed its checks, all plugins of its modules are found. -/
theorem Obtained.exists_plugin?_of_valid (obtained : r.Obtained) (valid : t.error? r = none) :
    ∀ m ∈ t.modules, ∃ p, r.plugin? m.plugin = some p ∧ p.name = m.plugin := by
  intro m here
  exact obtained.exists_plugin? ((Topology.error?_eq_none_iff.mp valid).2 m here)

theorem commandRefusal?_eq_none_iff_accepts {c : Command} :
    r.commandRefusal? t c = none ↔ ∀ sent ∈ c.addressed, r.AcceptsEntry t c.id sent := by
  simp only [commandRefusal?, List.findSome?_eq_none_iff, acceptsEntry_iff]

theorem commandRefusal?_eq_some_iff {c : Command}
    (known : ∀ m ∈ t.modules, ∃ p, r.plugin? m.plugin = some p ∧ p.name = m.plugin) :
    r.commandRefusal? t c = some e ↔
      ∃ before entry after, c.addressed = before ++ entry :: after ∧
        (∀ sent ∈ before, r.AcceptsEntry t c.id sent) ∧ r.EntryFault t c.id entry e := by
  simp only [commandRefusal?, List.findSome?_eq_some_iff, entryRefusal?_eq_some_iff known,
    acceptsEntry_iff]
  constructor
  · rintro ⟨before, entry, after, entries, fault, accepted⟩
    exact ⟨before, entry, after, entries, accepted, fault⟩
  · rintro ⟨before, entry, after, entries, accepted, fault⟩
    exact ⟨before, entry, after, entries, fault, accepted⟩

variable {s : CommandSequence}

theorem sequenceRefusal?_eq_none_iff :
    r.sequenceRefusal? s = none ↔ s.topology? = none ∨ ∃ t, s.topology? = some t ∧
      t.validate r = .ok () ∧
      ∀ c ∈ s.commands, ∀ sent ∈ c.addressed, r.AcceptsEntry t c.id sent := by
  unfold sequenceRefusal?
  cases s.topology? with
  | none => simp
  | some t =>
    cases valid : t.error? r with
    | some e => simp [Topology.validate_eq_ok_iff, valid]
    | none =>
      simp [Topology.validate_eq_ok_iff, valid, List.findSome?_eq_none_iff,
        commandRefusal?_eq_none_iff_accepts]

theorem sequenceRefusal?_eq_some_iff (obtained : r.Obtained) :
    r.sequenceRefusal? s = some e ↔ r.FirstRefusal s e := by
  constructor
  · intro refused
    unfold sequenceRefusal? at refused
    cases carried : s.topology? with
    | none => simp [carried] at refused
    | some t =>
      simp only [carried] at refused
      cases valid : t.error? r with
      | some cause =>
        simp only [valid, Option.some.injEq] at refused
        subst refused
        exact .topology carried (Topology.validate_eq_error_iff.mpr valid)
      | none =>
        simp only [valid] at refused
        obtain ⟨early, c, late, commands, refused, passed⟩ :=
          List.findSome?_eq_some_iff.mp refused
        have known := obtained.exists_plugin?_of_valid valid
        obtain ⟨before, entry, after, entries, accepted, fault⟩ :=
          (commandRefusal?_eq_some_iff known).mp refused
        exact .command carried (Topology.validate_eq_ok_iff.mpr valid) commands
          (fun other member => commandRefusal?_eq_none_iff_accepts.mp (passed other member))
          entries accepted fault
  · intro refusal
    cases refusal with
    | topology carried invalid =>
      simp [sequenceRefusal?, carried, Topology.validate_eq_error_iff.mp invalid]
    | command carried valid commands passed entries accepted fault =>
      have sound := Topology.validate_eq_ok_iff.mp valid
      have known := obtained.exists_plugin?_of_valid sound
      rw [sequenceRefusal?_of_topology carried sound]
      refine List.findSome?_eq_some_iff.mpr ⟨_, _, _, commands, ?_, fun other member => ?_⟩
      · exact (commandRefusal?_eq_some_iff known).mpr ⟨_, _, _, entries, accepted, fault⟩
      · exact commandRefusal?_eq_none_iff_accepts.mpr (passed other member)

theorem refuse_eq_ok_iff {refusal : Option SchemaError} :
    refuse refusal = .ok () ↔ refusal = none := by
  cases refusal <;> simp [refuse]

theorem refuse_eq_error_iff {refusal : Option SchemaError} :
    refuse refusal = .error e ↔ refusal = some e := by
  cases refusal <;> simp [refuse]

/-- No refusal is for a plugin that is not found. -/
theorem FirstRefusal.ne_pluginNotFound {plugin : String} :
    ¬ r.FirstRefusal s (.pluginNotFound plugin) := by
  intro refusal
  cases refusal with
  | command _ _ _ _ _ _ fault => cases fault

/-- A sequence passes exactly if it has no topology, or a sound one that the commands fit: every
module that an entry reaches accepts the command, and every exact address names a module. Every
other sequence is refused for the first thing at fault, which is never a plugin that is not
found. -/
theorem checkSequence_outcome (obtained : r.Obtained) (s : CommandSequence) :
    (r.checkSequence s = .ok () ↔ s.topology? = none ∨ ∃ t, s.topology? = some t ∧
      t.validate r = .ok () ∧ ∀ c ∈ s.commands, ∀ sent ∈ c.addressed,
        (∀ m ∈ t.modules, sent.target.matchesName m.inst = true → r.Accepts m.plugin c.id) ∧
          ∀ name, sent.target = .exact name → ∃ m ∈ t.modules, m.inst = name) ∧
      (∀ e, r.checkSequence s = .error e ↔ r.FirstRefusal s e) ∧
      ∀ plugin, r.checkSequence s ≠ .error (.pluginNotFound plugin) := by
  have outcome (e : SchemaError) : r.checkSequence s = .error e ↔ r.FirstRefusal s e := by
    rw [checkSequence, refuse_eq_error_iff, sequenceRefusal?_eq_some_iff obtained]
  refine ⟨?_, outcome, fun plugin refused => ?_⟩
  · rw [checkSequence, refuse_eq_ok_iff, sequenceRefusal?_eq_none_iff]
    constructor
    · rintro (absent | ⟨t, carried, valid, accepts⟩)
      · exact .inl absent
      · refine .inr ⟨t, carried, valid, fun c member sent here => ?_⟩
        exact ⟨(accepts c member sent here).accepted, (accepts c member sent here).named⟩
    · rintro (absent | ⟨t, carried, valid, accepts⟩)
      · exact .inl absent
      · refine .inr ⟨t, carried, valid, fun c member sent here => ?_⟩
        exact ⟨(accepts c member sent here).1, (accepts c member sent here).2⟩
  · exact FirstRefusal.ne_pluginNotFound ((outcome _).mp refused)

/-- A handler that starts and a reader that only takes its configuration. -/
def restricted : List Plugin := [⟨"DataLinkHandler", ["start"]⟩, ⟨"FakeCardReader", ["conf"]⟩]

def restrictedTopology : Topology :=
  ⟨[], [⟨"handler", "DataLinkHandler", []⟩, ⟨"reader", "FakeCardReader", []⟩]⟩

def restrictedSequence : CommandSequence :=
  ⟨[.ofTopology restrictedTopology, .ofPayloads "conf" [.ofTarget (.exact "reader")],
    .ofPayloads "start" [.ofTarget .any]]⟩

/-- All modules are to start, which the handler does and the reader does not. The same plugins
written and read again are not found, so that the topology is refused. -/
theorem checkSequence_restricted :
    (ofPlugins restricted).Obtained ∧
      (ofPlugins restricted).checkSequence restrictedSequence =
        .error (.unsupportedCommand "start" "reader" "FakeCardReader") ∧
      Obtained ⟨restricted, []⟩ ∧
      checkSequence ⟨restricted, []⟩ restrictedSequence =
        .error (.topology (.unknownPlugin "handler" "DataLinkHandler")) := by
  have built : (ofPlugins restricted).Obtained := .built (.ofPlugins restricted)
  have read : read? (ofPlugins restricted).toJson.tree = some ⟨restricted, []⟩ := by decide
  have plain : Obtained ⟨restricted, []⟩ := .of_read? read
  have configured : (ofPlugins restricted).AcceptsEntry restrictedTopology "conf"
      (.ofTarget (.exact "reader")) := acceptsEntry_iff.mpr (by decide)
  have started : (ofPlugins restricted).Accepts "DataLinkHandler" "start" := ⟨_, rfl, rfl⟩
  have commands : restrictedSequence.commands =
      [.ofTopology restrictedTopology, .ofPayloads "conf" [.ofTarget (.exact "reader")]] ++
        .ofPayloads "start" [.ofTarget .any] :: [] := rfl
  have modules : restrictedTopology.modules =
      [⟨"handler", "DataLinkHandler", []⟩] ++ ⟨"reader", "FakeCardReader", []⟩ :: [] := rfl
  refine ⟨built, ((checkSequence_outcome built _).2.1 _).mpr ?_, plain,
    ((checkSequence_outcome plain _).2.1 _).mpr (.topology rfl rfl)⟩
  refine .command rfl rfl commands ?_ (List.nil_append _).symm (by simp) ?_
  · simp [Command.ofTopology, Command.ofPayloads, Command.addressed, configured]
  · exact .unsupported modules (List.forall_mem_singleton.mpr fun _ => started)
      (Address.matchesName_any "reader") rfl rfl rfl

end Registry

end ReadoutControl
