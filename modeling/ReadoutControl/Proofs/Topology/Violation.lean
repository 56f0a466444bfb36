import ReadoutControl.Proofs.Topology.Wires

set_option autoImplicit false

/-!
Which violation is reported. `FirstViolation` says it without the checks: everything that is looked
at earlier is in order and the part it names is not. The checks pass exactly the topologies in which
nothing is violated, and refuse every other one for its first violation.
-/

namespace ReadoutControl.Topology

/-- Why a module is refused, given the names of the modules before it. A known module name comes
before the plugin, and the plugin before the connections. -/
inductive ModuleFault (registry : Registry) (queues before : List String) (m : DaqModule) :
    TopologyError → Prop
  | repeated : m.inst ∈ before → ModuleFault registry queues before m (.duplicateModule m.inst)
  | unknownPlugin : m.inst ∉ before → registry.hasPlugin m.plugin = false →
    ModuleFault registry queues before m (.unknownPlugin m.inst m.plugin)
  | unknownQueue {early late : List Connection} {c : Connection} :
    m.inst ∉ before → registry.hasPlugin m.plugin = true → m.connections = early ++ c :: late →
    (∀ other ∈ early, other.queue ∈ queues) → c.queue ∉ queues →
    ModuleFault registry queues before m (.unknownQueue m.inst c.name c.queue)

/-- The modules have names of their own and known plugins, and they connect to the queues. -/
structure SoundModules (registry : Registry) (queues : List String) (modules : List DaqModule) :
    Prop where
  nodup : (modules.map (·.inst)).Nodup
  known : ∀ m ∈ modules, registry.hasPlugin m.plugin = true
  connected : ∀ m ∈ modules, ∀ c ∈ m.connections, c.queue ∈ queues

/-- A queue for one producer that several output connections reach. -/
def Contended (t : Topology) (q : Queue) : Prop :=
  q.kind.isMultiProducer = false ∧ 1 < (t.wiresAt .output q.inst).length

/-- The violation to report: of the queue names, else of the modules, else of a queue for one
producer. -/
inductive FirstViolation (t : Topology) (registry : Registry) : TopologyError → Prop
  | queue {early late : List Queue} {q : Queue} :
    t.queues = early ++ q :: late → (early.map (·.inst)).Nodup → q.inst ∈ early.map (·.inst) →
    FirstViolation t registry (.duplicateQueue q.inst)
  | module {early late : List DaqModule} {m : DaqModule} {e : TopologyError} :
    (t.queues.map (·.inst)).Nodup → t.modules = early ++ m :: late →
    SoundModules registry (t.queues.map (·.inst)) early →
    ModuleFault registry (t.queues.map (·.inst)) (early.map (·.inst)) m e →
    FirstViolation t registry e
  | producers {early late : List Queue} {q : Queue} :
    (t.queues.map (·.inst)).Nodup → SoundModules registry (t.queues.map (·.inst)) t.modules →
    t.queues = early ++ q :: late → (∀ other ∈ early, ¬ t.Contended other) → t.Contended q →
    FirstViolation t registry
      (.multipleProducers q.inst ((t.wiresAt .output q.inst).map (·.owner.inst)))

theorem firstRepeated?_go_eq_some_iff {seen names : List String} {name : String} :
    firstRepeated?.go seen names = some name ↔ ∃ early late, names = early ++ name :: late ∧
      (early.Nodup ∧ ∀ other ∈ early, other ∉ seen) ∧ (name ∈ early ∨ name ∈ seen) := by
  induction names generalizing seen with
  | nil => simp [firstRepeated?.go]
  | cons first rest ih =>
    simp only [firstRepeated?.go]
    split
    · next repeated =>
      constructor
      · intro found
        obtain rfl := Option.some.inj found
        exact ⟨[], rest, rfl, by simp, .inr repeated⟩
      · rintro ⟨early, late, split, ⟨_, apart⟩, _⟩
        cases early with
        | nil => rw [(List.cons.inj split).1]
        | cons other early =>
          obtain rfl := (List.cons.inj split).1
          exact absurd repeated (apart first (List.mem_cons_self ..))
    · next fresh =>
      rw [ih]
      constructor
      · rintro ⟨early, late, rfl, ⟨distinct, apart⟩, known⟩
        simp only [List.mem_cons, not_or] at apart known
        refine ⟨first :: early, late, rfl, ⟨List.nodup_cons.mpr ⟨?_, distinct⟩, ?_⟩, ?_⟩
        · exact fun again => (apart first again).1 rfl
        · exact List.forall_mem_cons.mpr ⟨fresh, fun other member => (apart other member).2⟩
        · rw [List.mem_cons, or_assoc]
          exact or_left_comm.mp known
      · rintro ⟨early, late, split, ⟨distinct, apart⟩, known⟩
        cases early with
        | nil =>
          obtain rfl := (List.cons.inj split).1
          simp [fresh] at known
        | cons other early =>
          obtain ⟨rfl, rfl⟩ := List.cons.inj split
          obtain ⟨absent, distinct⟩ := List.nodup_cons.mp distinct
          refine ⟨early, late, rfl, ⟨distinct, fun other member => ?_⟩, ?_⟩
          · rw [List.mem_cons, not_or]
            exact ⟨fun same => absent (same ▸ member), apart other (List.mem_cons_of_mem _ member)⟩
          · rw [List.mem_cons, or_assoc] at known
            rw [List.mem_cons]
            exact or_left_comm.mp known

theorem firstRepeated?_eq_some_iff {names : List String} {name : String} :
    firstRepeated? names = some name ↔
      ∃ early late, names = early ++ name :: late ∧ early.Nodup ∧ name ∈ early := by
  simp [firstRepeated?, firstRepeated?_go_eq_some_iff]

variable {registry : Registry} {queues before : List String}

theorem soundModules_iff {modules : List DaqModule} :
    SoundModules registry queues modules ↔
      firstModuleError? registry queues [] modules = none := by
  rw [firstModuleError?_eq_none_iff]
  constructor
  · rintro ⟨nodup, known, connected⟩
    exact ⟨⟨nodup, by simp⟩, fun m member => ⟨known m member, connected m member⟩⟩
  · rintro ⟨⟨nodup, _⟩, sound⟩
    exact ⟨nodup, fun m member => (sound m member).1, fun m member => (sound m member).2⟩

theorem moduleError?_eq_some_iff {m : DaqModule} {e : TopologyError} :
    moduleError? registry queues before m = some e ↔ ModuleFault registry queues before m e := by
  unfold moduleError?
  constructor
  · intro refused
    split at refused
    · next repeated =>
      obtain rfl := Option.some.inj refused
      exact .repeated repeated
    · next fresh =>
      split at refused
      · next unknown =>
        obtain rfl := Option.some.inj refused
        exact .unknownPlugin fresh (by simpa using unknown)
      · next known =>
        obtain ⟨c, found, rfl⟩ := Option.map_eq_some_iff.mp refused
        obtain ⟨lost, early, late, split, connected⟩ := List.find?_eq_some_iff_append.mp found
        exact .unknownQueue fresh (by simpa using known) split (by simpa using connected)
          (by simpa using lost)
  · intro fault
    cases fault with
    | repeated again => rw [if_pos again]
    | unknownPlugin fresh unknown => simp [fresh, unknown]
    | @unknownQueue early late c fresh known split connected lost =>
      have found : m.connections.find? (·.queue ∉ queues) = some c :=
        List.find?_eq_some_iff_append.mpr
          ⟨by simpa using lost, early, late, split, by simpa using connected⟩
      rw [if_neg fresh, if_neg (by simp [known]), found]
      rfl

theorem firstModuleError?_eq_some_iff {modules : List DaqModule} {e : TopologyError} :
    firstModuleError? registry queues before modules = some e ↔
      ∃ early m late, modules = early ++ m :: late ∧
        firstModuleError? registry queues before early = none ∧
        moduleError? registry queues ((early.map (·.inst)).reverse ++ before) m = some e := by
  induction modules generalizing before with
  | nil => simp [firstModuleError?]
  | cons first rest ih =>
    cases found : moduleError? registry queues before first with
    | some cause =>
      simp only [firstModuleError?, found, Option.some.injEq]
      constructor
      · rintro rfl
        exact ⟨[], first, rest, rfl, rfl, found⟩
      · rintro ⟨early, m, late, split, sound, refused⟩
        cases early with
        | nil =>
          obtain rfl := (List.cons.inj split).1
          exact Option.some.inj (found.symm.trans refused)
        | cons other early =>
          obtain rfl := (List.cons.inj split).1
          simp [firstModuleError?, found] at sound
    | none =>
      simp only [firstModuleError?, found, ih]
      constructor
      · rintro ⟨early, m, late, rfl, sound, refused⟩
        refine ⟨first :: early, m, late, rfl, ?_, ?_⟩
        · simpa only [firstModuleError?, found] using sound
        · simpa using refused
      · rintro ⟨early, m, late, split, sound, refused⟩
        cases early with
        | nil =>
          obtain rfl := (List.cons.inj split).1
          simp [found] at refused
        | cons other early =>
          obtain ⟨rfl, rfl⟩ := List.cons.inj split
          refine ⟨early, m, late, rfl, ?_, ?_⟩
          · simpa only [firstModuleError?, found] using sound
          · simpa using refused

/-- The modules are refused for the first faulty one. -/
theorem firstModuleError?_nil_eq_some_iff {modules : List DaqModule} {e : TopologyError} :
    firstModuleError? registry queues [] modules = some e ↔
      ∃ early m late, modules = early ++ m :: late ∧ SoundModules registry queues early ∧
        ModuleFault registry queues (early.map (·.inst)) m e := by
  have order (early : List DaqModule) (m : DaqModule) :
      moduleError? registry queues ((early.map (·.inst)).reverse ++ []) m =
        moduleError? registry queues (early.map (·.inst)) m := by
    simp only [moduleError?, List.append_nil, List.mem_reverse]
  simp only [firstModuleError?_eq_some_iff, order, moduleError?_eq_some_iff, soundModules_iff]

variable {t : Topology}

theorem not_contended_iff {q : Queue} :
    ¬ t.Contended q ↔
      (q.kind.isMultiProducer = false → (t.wiresAt .output q.inst).length ≤ 1) := by
  simp [Contended]

theorem producerError?_eq_some_iff {q : Queue} {e : TopologyError} :
    t.producerError? q = some e ↔ t.Contended q ∧
      e = .multipleProducers q.inst ((t.wiresAt .output q.inst).map (·.owner.inst)) := by
  rw [← producers_eq, Contended, ← length_producers_eq, producerError?]
  cases q.kind.isMultiProducer <;> simp [eq_comm]

theorem firstProducerError?_eq_some_iff {e : TopologyError} :
    t.queues.findSome? t.producerError? = some e ↔
      ∃ early q late, t.queues = early ++ q :: late ∧ (∀ other ∈ early, ¬ t.Contended other) ∧
        t.Contended q ∧
        e = .multipleProducers q.inst ((t.wiresAt .output q.inst).map (·.owner.inst)) := by
  simp only [List.findSome?_eq_some_iff, producerError?_eq_some_iff, producerError?_eq_none_iff,
    not_contended_iff, length_producers_eq]
  constructor
  · rintro ⟨early, q, late, split, fault, sound⟩
    exact ⟨early, q, late, split, sound, fault⟩
  · rintro ⟨early, q, late, split, sound, fault⟩
    exact ⟨early, q, late, split, fault, sound⟩

theorem firstDuplicate_eq_some_iff {name : String} :
    firstRepeated? (t.queues.map (·.inst)) = some name ↔
      ∃ early q late, t.queues = early ++ q :: late ∧ (early.map (·.inst)).Nodup ∧
        q.inst ∈ early.map (·.inst) ∧ q.inst = name := by
  rw [firstRepeated?_eq_some_iff]
  constructor
  · rintro ⟨before, after, split, distinct, again⟩
    obtain ⟨early, rest, queues, rfl, tail⟩ := List.map_eq_append_iff.mp split
    obtain ⟨q, late, rfl, rfl, _⟩ := List.map_eq_cons_iff.mp tail
    exact ⟨early, q, late, queues, distinct, again, rfl⟩
  · rintro ⟨early, q, late, queues, distinct, again, rfl⟩
    exact ⟨early.map (·.inst), late.map (·.inst), by simp [queues], distinct, again⟩

/-- Each of the three checks is only made when those before it have passed. -/
theorem error?_eq_some_iff_check {e : TopologyError} :
    t.error? registry = some e ↔
      (∃ name, firstRepeated? (t.queues.map (·.inst)) = some name ∧ e = .duplicateQueue name) ∨
      (t.queues.map (·.inst)).Nodup ∧
        (firstModuleError? registry (t.queues.map (·.inst)) [] t.modules = some e ∨
          SoundModules registry (t.queues.map (·.inst)) t.modules ∧
            t.queues.findSome? t.producerError? = some e) := by
  rw [soundModules_iff, ← firstRepeated?_eq_none_iff, error?]
  cases firstRepeated? (t.queues.map (·.inst)) with
  | some name => simp [eq_comm]
  | none => cases firstModuleError? registry (t.queues.map (·.inst)) [] t.modules <;> simp

theorem error?_eq_some_iff {e : TopologyError} :
    t.error? registry = some e ↔ t.FirstViolation registry e := by
  simp only [error?_eq_some_iff_check, firstDuplicate_eq_some_iff,
    firstModuleError?_nil_eq_some_iff, firstProducerError?_eq_some_iff]
  constructor
  · rintro (⟨_, ⟨early, q, late, queues, fresh, known, rfl⟩, rfl⟩ | ⟨distinct, faulty | contended⟩)
    · exact .queue queues fresh known
    · obtain ⟨early, m, late, modules, sound, fault⟩ := faulty
      exact .module distinct modules sound fault
    · obtain ⟨sound, early, q, late, queues, free, contended, rfl⟩ := contended
      exact .producers distinct sound queues free contended
  · intro violation
    cases violation with
    | queue queues fresh known => exact .inl ⟨_, ⟨_, _, _, queues, fresh, known, rfl⟩, rfl⟩
    | module distinct modules sound fault =>
      exact .inr ⟨distinct, .inl ⟨_, _, _, modules, sound, fault⟩⟩
    | producers distinct sound queues free contended =>
      exact .inr ⟨distinct, .inr ⟨sound, _, _, _, queues, free, contended, rfl⟩⟩

theorem validate_eq_ok_iff : t.validate registry = .ok () ↔ t.error? registry = none := by
  unfold validate
  cases t.error? registry <;> simp

theorem validate_eq_error_iff {e : TopologyError} :
    t.validate registry = .error e ↔ t.error? registry = some e := by
  unfold validate
  cases t.error? registry <;> simp

/-- A topology passes exactly if its names are distinct, its plugins are known, its connections
reach declared queues and no queue for one producer has several. Every other topology is refused
for its first violation. -/
theorem validate_outcome (t : Topology) (registry : Registry) :
    (t.validate registry = .ok () ↔
      (t.queues.map (·.inst)).Nodup ∧ (t.modules.map (·.inst)).Nodup ∧
        (∀ m ∈ t.modules, registry.hasPlugin m.plugin = true) ∧
        (∀ m ∈ t.modules, ∀ c ∈ m.connections, ∃ q ∈ t.queues, q.inst = c.queue) ∧
        ∀ q ∈ t.queues, q.kind.isMultiProducer = false →
          (t.wiresAt .output q.inst).length ≤ 1) ∧
      ∀ e, t.validate registry = .error e ↔ t.FirstViolation registry e := by
  constructor
  · rw [validate_eq_ok_iff, error?_eq_none_iff]
    constructor
    · rintro ⟨wired, known⟩
      refine ⟨wired.queues_nodup, wired.modules_nodup, known, ?_, ?_⟩
      · exact fun m member c here => List.mem_map.mp (wired.connected m member c here)
      · intro q member single
        rw [← length_producers_eq]
        exact wired.single_producer q member single
    · rintro ⟨queues, modules, known, connected, single⟩
      refine ⟨⟨queues, modules, ?_, ?_⟩, known⟩
      · exact fun m member c here => List.mem_map.mpr (connected m member c here)
      · intro q member kind
        rw [length_producers_eq]
        exact single q member kind
  · intro e
    rw [validate_eq_error_iff, error?_eq_some_iff]

/-- A module that writes one queue twice is named twice. -/
example : validate ⟨[⟨"q", .spsc, 1⟩, ⟨"r", .spsc, 1⟩],
      [⟨"a", "DataWriter", [.output "x" "r", .output "y" "q", .output "z" "q"]⟩,
        ⟨"b", "DataWriter", [.output "x" "q", .input "y" "q"]⟩]⟩ .builtin =
    .error (.multipleProducers "q" ["a", "a", "b"]) := rfl

end ReadoutControl.Topology
