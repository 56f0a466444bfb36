import ReadoutControl.Proofs.Command.Refusal

set_option autoImplicit false

/-!
How far a passed check reaches. Commands are checked against the first topology of their sequence,
which is valid then and declares every module that they name. Later topologies are not looked at,
and where there is no topology nothing is. So a sequence that passes is sound as a whole exactly if
its later topologies are valid and, where it carries none, its commands name no modules.
-/

namespace ReadoutControl

namespace CommandSequence

/-- The topologies that commands carry, in their order. -/
def topologies (s : CommandSequence) : List Topology := s.commands.filterMap Command.topology?

/-- What is sent to modules: the entries of every command under its name. -/
def entries (s : CommandSequence) : List (String × List Addressed) :=
  s.commands.map fun c => (c.id, c.addressed)

/-- Some command addresses the module of that name alone. -/
def NamesModule (s : CommandSequence) (name : String) : Prop :=
  ∃ c ∈ s.commands, .exact name ∈ c.targets

/-- Every topology is valid, and every module that a command names is declared in one of them. -/
structure Sound (s : CommandSequence) (r : Registry) : Prop where
  valid : ∀ t ∈ s.topologies, t.validate r = .ok ()
  declared : ∀ name, s.NamesModule name → ∃ t ∈ s.topologies, name ∈ t.moduleNames

theorem topology?_eq_head? (s : CommandSequence) : s.topology? = s.topologies.head? :=
  List.head?_filterMap.symm

end CommandSequence

namespace Registry

variable {r : Registry} {s : CommandSequence} {t : Topology}

theorem commandRefusal?_eq_of_entries (r : Registry) (t : Topology) (s : CommandSequence) :
    s.commands.findSome? (r.commandRefusal? t) =
      s.entries.findSome? fun sent => sent.2.findSome? (r.entryRefusal? t sent.1) := by
  rw [CommandSequence.entries, List.findSome?_map]
  rfl

/-- Of the topologies only the first is looked at. -/
theorem checkSequence_congr {other : CommandSequence} (first : other.topology? = s.topology?)
    (sent : other.entries = s.entries) : r.checkSequence other = r.checkSequence s := by
  simp only [checkSequence, sequenceRefusal?, commandRefusal?_eq_of_entries, first, sent]

theorem valid_of_passed (passed : r.checkSequence s = .ok ()) (carried : s.topology? = some t) :
    t.validate r = .ok () ∧ ∀ name, s.NamesModule name → name ∈ t.moduleNames := by
  rw [checkSequence, refuse_eq_ok_iff, sequenceRefusal?_eq_none_iff, carried] at passed
  rcases passed with absent | ⟨first, same, valid, accepts⟩
  · contradiction
  · obtain rfl := Option.some.inj same
    refine ⟨valid, ?_⟩
    rintro name ⟨c, member, target⟩
    obtain ⟨entry, here, exact⟩ := List.mem_map.mp target
    obtain ⟨m, declared, rfl⟩ := (accepts c member entry here).named name exact
    exact List.mem_map_of_mem declared

/-- What the check leaves open: the later topologies, and without a topology the names. -/
theorem sound_iff_of_passed (passed : r.checkSequence s = .ok ()) :
    s.Sound r ↔ (∀ t ∈ s.topologies.tail, t.validate r = .ok ()) ∧
      (s.topologies = [] → ∀ name, ¬ s.NamesModule name) := by
  constructor
  · rintro ⟨valid, declared⟩
    constructor
    · intro t later
      exact valid t (List.mem_of_mem_tail later)
    · intro empty name named
      obtain ⟨t, carried, _⟩ := declared name named
      rw [empty] at carried
      contradiction
  · rintro ⟨later, unnamed⟩
    cases carried : s.topologies with
    | nil =>
      constructor
      · simp [carried]
      · intro name named
        exact absurd named (unnamed carried name)
    | cons t rest =>
      have first : s.topology? = some t := by rw [s.topology?_eq_head?, carried, List.head?_cons]
      obtain ⟨valid, declares⟩ := valid_of_passed passed first
      rw [carried, List.tail_cons] at later
      constructor
      · rw [carried, List.forall_mem_cons]
        exact ⟨valid, later⟩
      · intro name named
        refine ⟨t, ?_, declares name named⟩
        rw [carried]
        exact List.mem_cons_self

/-- A sequence that passes has a valid first topology, which declares all modules that are named. It
passes with any later topologies, and is sound exactly if these are valid too and no module is named
without a topology. -/
theorem checkSequence_coverage (passed : r.checkSequence s = .ok ()) :
    (∀ t, s.topology? = some t →
      t.validate r = .ok () ∧ ∀ name, s.NamesModule name → name ∈ t.moduleNames) ∧
    (∀ other : CommandSequence, other.topology? = s.topology? → other.entries = s.entries →
      r.checkSequence other = .ok ()) ∧
    (s.Sound r ↔ (∀ t ∈ s.topologies.tail, t.validate r = .ok ()) ∧
      (s.topologies = [] → ∀ name, ¬ s.NamesModule name)) := by
  refine ⟨?_, ?_, sound_iff_of_passed passed⟩
  · intro t carried
    exact valid_of_passed passed carried
  · intro other first sent
    rw [checkSequence_congr first sent]
    exact passed

/-- A reader is configured, then a handler joins it and both are started. -/
def joined : CommandSequence :=
  ⟨[.ofTopology ⟨[], [⟨"reader", "FakeCardReader", []⟩]⟩,
    .ofPayloads "conf" [.ofTarget (.exact "reader")],
    .ofTopology ⟨[⟨"link", .spsc, 8⟩], [⟨"reader", "FakeCardReader", [.output "out" "link"]⟩,
      ⟨"handler", "DataLinkHandler", [.input "raw" "link"]⟩]⟩,
    .ofPayloads "start" [.ofTarget .any]]⟩

/-- Both of its topologies are valid, so that the sequence is sound. -/
theorem checkSequence_coverage_joined :
    builtin.checkSequence joined = .ok () ∧ joined.Sound builtin := by
  have passed : builtin.checkSequence joined = .ok () := rfl
  refine ⟨passed, (checkSequence_coverage passed).2.2.mpr ⟨?_, ?_⟩⟩
  · exact List.forall_mem_singleton.mpr rfl
  · intro empty
    contradiction

/-- A trigger is added twice to an empty application. -/
def doubled : CommandSequence :=
  ⟨[.ofTopology .empty, .ofTopology ⟨[], [⟨"tde", "TriggerDecisionEmulator", []⟩,
    ⟨"tde", "TriggerDecisionEmulator", []⟩]⟩]⟩

/-- A trigger is stopped that was never declared. -/
def undeclared : CommandSequence := ⟨[.ofPayloads "stop" [.ofTarget (.exact "tde")]]⟩

/-- Sequences pass in which a later topology repeats a module, or a module is named without a
topology. -/
theorem checkSequence_not_sound :
    (builtin.checkSequence doubled = .ok () ∧
      ∃ t ∈ doubled.topologies, t.validate builtin = .error (.duplicateModule "tde")) ∧
    (builtin.checkSequence undeclared = .ok () ∧ undeclared.NamesModule "tde" ∧
      ∀ t ∈ undeclared.topologies, "tde" ∉ t.moduleNames) ∧
    ¬ doubled.Sound builtin ∧ ¬ undeclared.Sound builtin := by
  have repeated : ∃ t ∈ doubled.topologies,
      t.validate builtin = .error (.duplicateModule "tde") :=
    ⟨_, List.mem_cons_of_mem _ (List.mem_singleton_self _), rfl⟩
  have named : undeclared.NamesModule "tde" :=
    ⟨_, List.mem_singleton_self _, List.mem_singleton_self _⟩
  have undeclaring : undeclared.topologies = [] := rfl
  refine ⟨⟨rfl, repeated⟩, ⟨rfl, named, by simp [undeclaring]⟩, ?_, ?_⟩
  · intro sound
    obtain ⟨t, carried, refused⟩ := repeated
    rw [sound.valid t carried] at refused
    contradiction
  · intro sound
    obtain ⟨t, carried, _⟩ := sound.declared "tde" named
    rw [undeclaring] at carried
    contradiction

end Registry

end ReadoutControl
