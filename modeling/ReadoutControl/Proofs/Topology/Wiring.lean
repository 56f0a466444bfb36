import ReadoutControl.Topology.Plan

set_option autoImplicit false

/-!
When a topology is in order. `Wired` gathers the rules that do not depend on the plugins; a wired
topology can only be refused for a plugin that the registry lacks, and the first module with such a
plugin is reported.
-/

namespace ReadoutControl.Topology

theorem firstRepeated?_go_eq_none_iff {seen names : List String} :
    firstRepeated?.go seen names = none ↔ names.Nodup ∧ ∀ name ∈ names, name ∉ seen := by
  induction names generalizing seen with
  | nil => simp [firstRepeated?.go]
  | cons name rest ih =>
    simp only [firstRepeated?.go]
    split
    · next repeated =>
      simp [repeated]
    · next fresh =>
      rw [ih, List.nodup_cons]
      constructor
      · rintro ⟨distinct, apart⟩
        refine ⟨⟨fun again => apart name again (List.mem_cons_self ..), distinct⟩, ?_⟩
        rintro other (_ | ⟨_, later⟩)
        · exact fresh
        · exact fun old => apart other later (List.mem_cons_of_mem _ old)
      · rintro ⟨⟨absent, distinct⟩, apart⟩
        refine ⟨distinct, fun other later => ?_⟩
        rw [List.mem_cons, not_or]
        exact ⟨fun same => absent (same ▸ later), apart other (List.mem_cons_of_mem _ later)⟩

theorem firstRepeated?_eq_none_iff {names : List String} :
    firstRepeated? names = none ↔ names.Nodup := by
  simp [firstRepeated?, firstRepeated?_go_eq_none_iff]

variable {registry : Registry} {queues before : List String}

theorem moduleError?_eq_none_iff {m : DaqModule} :
    moduleError? registry queues before m = none ↔
      m.inst ∉ before ∧ registry.hasPlugin m.plugin = true ∧
        ∀ c ∈ m.connections, c.queue ∈ queues := by
  unfold moduleError?
  by_cases repeated : m.inst ∈ before <;> cases known : registry.hasPlugin m.plugin <;>
    simp [repeated]

theorem firstModuleError?_eq_none_iff {modules : List DaqModule} :
    firstModuleError? registry queues before modules = none ↔
      ((modules.map (·.inst)).Nodup ∧ ∀ m ∈ modules, m.inst ∉ before) ∧
        ∀ m ∈ modules, registry.hasPlugin m.plugin = true ∧
          ∀ c ∈ m.connections, c.queue ∈ queues := by
  induction modules generalizing before with
  | nil => simp [firstModuleError?]
  | cons m rest ih =>
    simp only [firstModuleError?]
    cases found : moduleError? registry queues before m with
    | some e =>
      have refused : ¬ moduleError? registry queues before m = none := by simp [found]
      rw [moduleError?_eq_none_iff] at refused
      simp only [reduceCtorEq, false_iff, List.forall_mem_cons]
      exact fun ⟨⟨_, fresh, _⟩, sound, _⟩ => refused ⟨fresh, sound.1, sound.2⟩
    | none =>
      obtain ⟨fresh, known, connected⟩ := moduleError?_eq_none_iff.mp found
      simp only [ih, List.map_cons, List.nodup_cons, List.forall_mem_cons]
      constructor
      · rintro ⟨⟨distinct, apart⟩, sound⟩
        have absent : m.inst ∉ rest.map (·.inst) := by
          intro again
          obtain ⟨other, later, same⟩ := List.mem_map.mp again
          exact apart other later (same ▸ List.mem_cons_self ..)
        exact ⟨⟨⟨absent, distinct⟩, fresh, fun other later old =>
          apart other later (List.mem_cons_of_mem _ old)⟩, ⟨known, connected⟩, sound⟩
      · rintro ⟨⟨⟨absent, distinct⟩, _, apart⟩, _, sound⟩
        refine ⟨⟨distinct, fun other later => ?_⟩, sound⟩
        rw [List.mem_cons, not_or]
        exact ⟨fun same => absent (same ▸ List.mem_map_of_mem later), apart other later⟩

/-- Names are unique, connections reach declared queues, and a queue for one producer has at most
one. -/
structure Wired (t : Topology) : Prop where
  queues_nodup : (t.queues.map (·.inst)).Nodup
  modules_nodup : t.moduleNames.Nodup
  connected : ∀ m ∈ t.modules, ∀ c ∈ m.connections, c.queue ∈ t.queues.map (·.inst)
  single_producer : ∀ q ∈ t.queues, q.kind.isMultiProducer = false →
    (t.producers q.inst).length ≤ 1

theorem producerError?_eq_none_iff {t : Topology} {q : Queue} :
    t.producerError? q = none ↔
      (q.kind.isMultiProducer = false → (t.producers q.inst).length ≤ 1) := by
  unfold producerError?
  cases q.kind.isMultiProducer <;> simp

/-- A topology passes exactly when it is wired and the registry has all its plugins. -/
theorem error?_eq_none_iff {t : Topology} :
    t.error? registry = none ↔
      t.Wired ∧ ∀ m ∈ t.modules, registry.hasPlugin m.plugin = true := by
  cases repeated : firstRepeated? (t.queues.map (·.inst)) with
  | some queue =>
    have notDistinct : ¬ (t.queues.map (·.inst)).Nodup := by
      rw [← firstRepeated?_eq_none_iff, repeated]
      simp
    simp only [error?, repeated, reduceCtorEq, false_iff]
    exact fun sound => notDistinct sound.1.queues_nodup
  | none =>
    have distinct := firstRepeated?_eq_none_iff.mp repeated
    cases found : firstModuleError? registry (t.queues.map (·.inst)) [] t.modules with
    | some e =>
      have refused : ¬ firstModuleError? registry (t.queues.map (·.inst)) [] t.modules = none := by
        simp [found]
      rw [firstModuleError?_eq_none_iff] at refused
      simp only [error?, repeated, found, reduceCtorEq, false_iff]
      exact fun ⟨wired, known⟩ => refused ⟨⟨wired.modules_nodup, by simp⟩,
        fun m member => ⟨known m member, wired.connected m member⟩⟩
    | none =>
      obtain ⟨⟨modules, _⟩, sound⟩ := firstModuleError?_eq_none_iff.mp found
      simp only [error?, repeated, found, List.findSome?_eq_none_iff, producerError?_eq_none_iff]
      constructor
      · intro single
        exact ⟨⟨distinct, modules, fun m member => (sound m member).2, single⟩,
          fun m member => (sound m member).1⟩
      · exact fun ⟨wired, _⟩ => wired.single_producer

theorem firstModuleError?_of_connected {modules : List DaqModule}
    (distinct : (modules.map (·.inst)).Nodup) (apart : ∀ m ∈ modules, m.inst ∉ before)
    (connected : ∀ m ∈ modules, ∀ c ∈ m.connections, c.queue ∈ queues) :
    firstModuleError? registry queues before modules =
      (modules.find? fun m => !registry.hasPlugin m.plugin).map fun m =>
        .unknownPlugin m.inst m.plugin := by
  induction modules generalizing before with
  | nil => rfl
  | cons m rest ih =>
    simp only [List.map_cons, List.nodup_cons, List.forall_mem_cons] at distinct apart connected
    cases known : registry.hasPlugin m.plugin with
    | false => simp [firstModuleError?, moduleError?, apart.1, known]
    | true =>
      have fine : moduleError? registry queues before m = none :=
        moduleError?_eq_none_iff.mpr ⟨apart.1, known, connected.1⟩
      have restApart : ∀ other ∈ rest, other.inst ∉ m.inst :: before := by
        intro other later
        rw [List.mem_cons, not_or]
        exact ⟨fun same => distinct.1 (same ▸ List.mem_map_of_mem later), apart.2 other later⟩
      simp [firstModuleError?, fine, known, ih distinct.2 restApart connected.2]

/-- A wired topology is refused for its first module with an unknown plugin, and for nothing
else. -/
theorem Wired.error?_eq {t : Topology} (wired : t.Wired) :
    t.error? registry = (t.modules.find? fun m => !registry.hasPlugin m.plugin).map fun m =>
      .unknownPlugin m.inst m.plugin := by
  have modules : firstModuleError? registry (t.queues.map (·.inst)) [] t.modules =
      (t.modules.find? fun m => !registry.hasPlugin m.plugin).map fun m =>
        .unknownPlugin m.inst m.plugin :=
    firstModuleError?_of_connected wired.modules_nodup (by simp) wired.connected
  have queues := firstRepeated?_eq_none_iff.mpr wired.queues_nodup
  cases unknown : t.modules.find? fun m => !registry.hasPlugin m.plugin with
  | some m => simp [error?, queues, modules, unknown]
  | none =>
    simp only [error?, queues, modules, unknown, Option.map_none, List.findSome?_eq_none_iff,
      producerError?_eq_none_iff]
    exact wired.single_producer

/-- The queues that are written, once for each output to them. -/
def writtenQueues (t : Topology) : List String :=
  t.modules.flatMap fun m => m.outputs.map (·.queue)

theorem length_producers (t : Topology) (queue : String) :
    (t.producers queue).length = t.writtenQueues.count queue := by
  have written : t.writtenQueues = t.allOutputs.map (·.2.queue) := by
    simp [writtenQueues, allOutputs, List.map_flatMap, Function.comp_def]
  rw [written, List.count_eq_countP, List.countP_map, List.countP_eq_length_filter]
  simp only [producers, List.length_map]
  congr 2

/-- It is enough to look at the written queues that are not shared, if none of them occurs
twice. -/
theorem length_producers_le_one {t : Topology} {shared : List String} {queue : String}
    (distinct : (t.writtenQueues.filter (· ∉ shared)).Nodup) (single : queue ∉ shared) :
    (t.producers queue).length ≤ 1 := by
  rw [length_producers, ← List.count_filter (p := (· ∉ shared)) (by simpa using single)]
  exact List.nodup_iff_count.mp distinct queue

end ReadoutControl.Topology

namespace ReadoutControl.Plan

theorem queues_perm (p : Plan) : p.topology.queues.Perm p.queues := List.mergeSort_perm ..

/-- A plan is wired if its names are distinct, its connections reach its queues and no queue outside
the shared ones, which allow any number of producers, is written twice. -/
theorem wired {p : Plan} (shared : List String) (queues : (p.queues.map (·.inst)).Nodup)
    (modules : (p.modules.map (·.inst)).Nodup)
    (connected : ∀ m ∈ p.modules, ∀ c ∈ m.connections, c.queue ∈ p.queues.map (·.inst))
    (single : ∀ q ∈ p.queues, q.kind.isMultiProducer = false → q.inst ∉ shared)
    (written : (p.topology.writtenQueues.filter (· ∉ shared)).Nodup) : p.topology.Wired := by
  have names := p.queues_perm.map (·.inst)
  refine ⟨names.symm.nodup queues, modules, ?_, ?_⟩
  · exact fun m member c connection => names.mem_iff.mpr (connected m member c connection)
  · intro q member kind
    exact Topology.length_producers_le_one written
      (single q (p.queues_perm.mem_iff.mp member) kind)

/-- Building checks the topology and does not change it. -/
theorem eq_of_build {p : Plan} {registry : Registry} {t : Topology}
    (built : p.build registry = .ok t) : t = p.topology := by
  unfold build at built
  cases validated : p.topology.validate registry with
  | error e => simp [validated, Except.map] at built
  | ok _ => simpa [validated, Except.map, eq_comm] using built

theorem build_eq {p : Plan} (wired : p.topology.Wired) (registry : Registry) :
    p.build registry = match p.modules.find? fun m => !registry.hasPlugin m.plugin with
      | some m => .error (.unknownPlugin m.inst m.plugin)
      | none => .ok p.topology := by
  have refusal : p.topology.error? registry =
      (p.modules.find? fun m => !registry.hasPlugin m.plugin).map fun m =>
        .unknownPlugin m.inst m.plugin := wired.error?_eq
  cases unknown : p.modules.find? fun m => !registry.hasPlugin m.plugin with
  | some m => simp [build, Topology.validate, refusal, unknown, Except.map]
  | none => simp [build, Topology.validate, refusal, unknown, Except.map]

end ReadoutControl.Plan
