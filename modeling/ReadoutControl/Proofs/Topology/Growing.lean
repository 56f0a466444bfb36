import ReadoutControl.Proofs.Topology.Building

set_option autoImplicit false

/-!
What becomes of a violation as a plan grows. A declaration takes nothing back, so a plan with a
repeated name, an unknown plugin or several producers for one queue stays spoiled. A plan that only
waits for a queue is mended by declaring the queue, and by nothing else.
-/

namespace ReadoutControl

/-- Whether more declarations cannot mend the violation. -/
def TopologyError.isLasting : TopologyError → Bool
  | .duplicateQueue _ | .duplicateModule _ | .unknownPlugin .. | .multipleProducers .. => true
  | .unknownQueue .. => false

namespace Plan

open ReadoutControl.Topology

/-- What is wrong with a plan for good. -/
inductive Spoiled (registry : Registry) (p : Plan) : Prop
  | queues : ¬ (p.queues.map (·.inst)).Nodup → Spoiled registry p
  | modules : ¬ (p.modules.map (·.inst)).Nodup → Spoiled registry p
  | plugin {m : DaqModule} :
    m ∈ p.modules → registry.hasPlugin m.plugin = false → Spoiled registry p
  | producers {q : Queue} : q ∈ p.queues → p.topology.Contended q → Spoiled registry p

/-- Some module connects to the queue, which is not declared. -/
structure Awaits (p : Plan) (queue : String) : Prop where
  connected : ∃ m ∈ p.modules, ∃ c ∈ m.connections, c.queue = queue
  undeclared : queue ∉ p.queues.map (·.inst)

variable {p : Plan} {registry : Registry} {queue : String}

theorem wiresAt_declare (p : Plan) (step : Step) (dir : Direction) (queue : String) :
    (p.declare step).topology.wiresAt dir queue =
      p.topology.wiresAt dir queue ++ Topology.wiresAt ⟨[], step.modules⟩ dir queue := by
  rw [declare_eq]
  simp only [wiresAt_eq_flatMap]
  exact List.flatMap_append

/-- A declaration adds connections and takes none away. -/
theorem contended_declare {q : Queue} (contended : p.topology.Contended q) (step : Step) :
    (p.declare step).topology.Contended q := by
  obtain ⟨single, several⟩ := contended
  refine ⟨single, ?_⟩
  rw [wiresAt_declare, List.length_append]
  omega

theorem Spoiled.declare (spoiled : p.Spoiled registry) (step : Step) :
    (p.declare step).Spoiled registry := by
  have grown := declare_eq p step
  cases spoiled with
  | queues repeated =>
    refine .queues fun distinct => repeated ?_
    rw [grown, List.map_append] at distinct
    exact (List.nodup_append.mp distinct).1
  | modules repeated =>
    refine .modules fun distinct => repeated ?_
    rw [grown, List.map_append] at distinct
    exact (List.nodup_append.mp distinct).1
  | plugin member unknown =>
    refine .plugin ?_ unknown
    rw [grown]
    exact List.mem_append_left _ member
  | producers member contended =>
    refine .producers ?_ (contended_declare contended step)
    rw [grown]
    exact List.mem_append_left _ member

theorem Awaits.declare (awaits : p.Awaits queue) (step : Step) :
    (p.declare step).Awaits queue ∨ queue ∈ step.queues.map (·.inst) := by
  obtain ⟨⟨m, member, c, connection, same⟩, undeclared⟩ := awaits
  by_cases declared : queue ∈ step.queues.map (·.inst)
  · exact .inr declared
  · left
    rw [declare_eq]
    refine ⟨⟨m, List.mem_append_left _ member, c, connection, same⟩, ?_⟩
    rw [List.map_append, List.mem_append, not_or]
    exact ⟨undeclared, declared⟩

/-- However a plan goes on, it stays spoiled. -/
theorem Spoiled.run (spoiled : p.Spoiled registry) (steps : List Step) :
    (steps.foldl Plan.declare p).Spoiled registry := by
  induction steps generalizing p with
  | nil => exact spoiled
  | cons step rest ih => exact ih (spoiled.declare step)

/-- A plan waits for a queue until the queue is declared. -/
theorem Awaits.run (awaits : p.Awaits queue) (steps : List Step) :
    (steps.foldl Plan.declare p).Awaits queue ∨
      ∃ step ∈ steps, queue ∈ step.queues.map (·.inst) := by
  induction steps generalizing p with
  | nil => exact .inl awaits
  | cons step rest ih =>
    rcases awaits.declare step with waiting | declared
    · rcases ih waiting with still | ⟨later, member, declared⟩
      · exact .inl still
      · exact .inr ⟨later, List.mem_cons_of_mem _ member, declared⟩
    · exact .inr ⟨step, List.mem_cons_self, declared⟩

/-- A plan that is built has no fault of either kind. -/
theorem sound_of_build {t : Topology} (built : p.build registry = .ok t) :
    ¬ p.Spoiled registry ∧ ∀ queue, ¬ p.Awaits queue := by
  obtain ⟨passed, -⟩ := build_eq_ok_iff.mp built
  obtain ⟨wired, known⟩ := error?_eq_none_iff.mp passed
  have names := p.queues_perm.map (·.inst)
  constructor
  · intro spoiled
    cases spoiled with
    | queues repeated => exact repeated (names.nodup wired.queues_nodup)
    | modules repeated => exact repeated wired.modules_nodup
    | plugin member unknown => exact nomatch (known _ member).symm.trans unknown
    | @producers q member contended =>
      have few := wired.single_producer q (p.queues_perm.mem_iff.mpr member) contended.1
      rw [length_producers_eq] at few
      exact absurd contended.2 (Nat.not_lt.mpr few)
  · rintro _ ⟨⟨m, member, c, connection, rfl⟩, undeclared⟩
    exact undeclared (names.mem_iff.mp (wired.connected m member c connection))

theorem build_eq_error_iff {e : TopologyError} :
    p.build registry = .error e ↔ p.topology.FirstViolation registry e := by
  rw [← error?_eq_some_iff, build, validate]
  cases p.topology.error? registry <;> simp [Except.map]

/-- The plan is spoiled, or it is refused for a queue that it waits for. -/
theorem fault_of_build {e : TopologyError} (refused : p.build registry = .error e) :
    e.isLasting = true ∧ p.Spoiled registry ∨
      ∃ module connection queue, e = .unknownQueue module connection queue ∧ p.Awaits queue := by
  have names := p.queues_perm.map (·.inst)
  cases build_eq_error_iff.mp refused with
  | @queue early late q order _ again =>
    refine .inl ⟨rfl, .queues fun distinct => ?_⟩
    have sorted := names.symm.nodup distinct
    rw [order, List.map_append] at sorted
    exact (List.nodup_append.mp sorted).2.2 q.inst again q.inst List.mem_cons_self rfl
  | @module early late m _ _ modules _ fault =>
    have member : m ∈ p.modules := by
      have order : p.modules = early ++ m :: late := modules
      simp [order]
    cases fault with
    | repeated again =>
      refine .inl ⟨rfl, .modules fun distinct => ?_⟩
      have order : p.modules = early ++ m :: late := modules
      rw [order, List.map_append] at distinct
      exact (List.nodup_append.mp distinct).2.2 m.inst again m.inst List.mem_cons_self rfl
    | unknownPlugin _ unknown => exact .inl ⟨rfl, .plugin member unknown⟩
    | @unknownQueue _ _ c _ _ connections _ undeclared =>
      have connection : c ∈ m.connections := by simp [connections]
      exact .inr ⟨m.inst, c.name, c.queue, rfl, ⟨m, member, c, connection, rfl⟩,
        fun declared => undeclared (names.mem_iff.mpr declared)⟩
  | @producers early late q _ _ order _ contended =>
    have listed : q ∈ p.topology.queues := by simp [order]
    exact .inl ⟨rfl, .producers (p.queues_perm.mem_iff.mp listed) contended⟩

theorem ofSteps_take (steps : List Step) {n m : Nat} (le : n ≤ m) :
    ofSteps (steps.take m) =
      ((steps.take m).drop n).foldl declare (ofSteps (steps.take n)) := by
  have parts := List.take_append_drop n (steps.take m)
  rw [List.take_take, Nat.min_eq_left le] at parts
  calc ofSteps (steps.take m)
      = (steps.take n ++ (steps.take m).drop n).foldl declare empty := by rw [parts, ofSteps]
    _ = ((steps.take m).drop n).foldl declare (ofSteps (steps.take n)) := List.foldl_append

/-- A run of declarations that is refused so far, other than for want of a queue, is refused however
it goes on. If it is refused for want of a queue and built later on, then the queue was declared in
between. -/
theorem build_take (registry : Registry) (steps : List Step) {n m : Nat} (le : n ≤ m) :
    (∀ e, e.isLasting = true → (ofSteps (steps.take n)).build registry = .error e →
      ∃ later, (ofSteps (steps.take m)).build registry = .error later) ∧
    ∀ module connection queue t,
      (ofSteps (steps.take n)).build registry = .error (.unknownQueue module connection queue) →
      (ofSteps (steps.take m)).build registry = .ok t →
        ∃ i step, n ≤ i ∧ i < m ∧ steps[i]? = some step ∧ queue ∈ step.queues.map (·.inst) := by
  constructor
  · intro e lasting refused
    rcases fault_of_build refused with ⟨_, spoiled⟩ | ⟨_, _, _, rfl, _⟩
    · cases later : (ofSteps (steps.take m)).build registry with
      | error e => exact ⟨e, rfl⟩
      | ok t =>
        refine absurd ?_ (sound_of_build later).1
        rw [ofSteps_take steps le]
        exact spoiled.run _
    · exact nomatch lasting
  · intro module connection queue t refused built
    rcases fault_of_build refused with ⟨lasting, _⟩ | ⟨_, _, _, same, awaits⟩
    · exact nomatch lasting
    · obtain ⟨rfl, rfl, rfl⟩ := TopologyError.unknownQueue.inj same
      rcases awaits.run ((steps.take m).drop n) with still | ⟨step, member, declared⟩
      · rw [← ofSteps_take steps le] at still
        exact absurd still ((sound_of_build built).2 queue)
      · obtain ⟨k, position⟩ := List.mem_iff_getElem?.mp member
        rw [List.getElem?_drop, List.getElem?_take] at position
        obtain ⟨early, position⟩ := Option.ite_none_right_eq_some.mp position
        exact ⟨n + k, step, Nat.le_add_right n k, early, position, declared⟩

/-- A queue that is wanted, declared, and then written by a second module. -/
def crowding : List Step :=
  [.module "source" "Reader" [.output "out" "a"],
    .queueFamily [0, 1] .spsc 5 fun i => if i = 0 then "b" else "a",
    .module "echo" "Reader" [.output "out" "a"], .queue "a" .mpmc 9]

/-- The run is refused for the queue at first, then built, and spoiled by the second producer. One
more queue of that name changes the violation but mends nothing. -/
theorem build_take_crowding :
    ∃ registry : Registry, registry = .ofPlugins [⟨"Reader", []⟩] ∧
      (ofSteps (crowding.take 1)).build registry = .error (.unknownQueue "source" "out" "a") ∧
      (ofSteps (crowding.take 2)).build registry =
        .ok ⟨[⟨"a", .spsc, 5⟩, ⟨"b", .spsc, 5⟩], [⟨"source", "Reader", [.output "out" "a"]⟩]⟩ ∧
      (∃ i step, 1 ≤ i ∧ i < 2 ∧ crowding[i]? = some step ∧ "a" ∈ step.queues.map (·.inst)) ∧
      (ofSteps (crowding.take 3)).build registry =
        .error (.multipleProducers "a" ["source", "echo"]) ∧
      ∃ later, (ofSteps (crowding.take 4)).build registry = .error later := by
  have refused : (ofSteps (crowding.take 1)).build (.ofPlugins [⟨"Reader", []⟩]) =
      .error (.unknownQueue "source" "out" "a") := by
    rw [build_eq_error_iff, ← error?_eq_some_iff]
    decide +kernel
  have built : (ofSteps (crowding.take 2)).build (.ofPlugins [⟨"Reader", []⟩]) =
      .ok ⟨[⟨"a", .spsc, 5⟩, ⟨"b", .spsc, 5⟩], [⟨"source", "Reader", [.output "out" "a"]⟩]⟩ :=
    build_eq_ok_iff_ordered.mpr ⟨by decide, rfl, rfl, rfl⟩
  have spoiled : (ofSteps (crowding.take 3)).build (.ofPlugins [⟨"Reader", []⟩]) =
      .error (.multipleProducers "a" ["source", "echo"]) := by
    have declared : (ofSteps (crowding.take 3)).topology =
        ⟨[⟨"a", .spsc, 5⟩, ⟨"b", .spsc, 5⟩], [⟨"source", "Reader", [.output "out" "a"]⟩,
          ⟨"echo", "Reader", [.output "out" "a"]⟩]⟩ :=
      topology_eq_of_isOrdered (by decide) rfl rfl
    rw [build_eq_error_iff, ← error?_eq_some_iff, declared]
    decide +kernel
  refine ⟨_, rfl, refused, built, ?_, spoiled, ?_⟩
  · exact (build_take _ crowding (by decide)).2 _ _ _ _ refused built
  · exact (build_take _ crowding (by decide)).1 _ rfl spoiled

end Plan

end ReadoutControl
