import ReadoutControl.Proofs.Topology.Violation

set_option autoImplicit false

/-!
Building a plan from a run of declarations. The queues come out in the order of their names and the
modules as they were declared, and how the declarations were interleaved cannot be seen: neither in
the topology nor, when names repeat or wires are wrong, in the violation that is reported.
-/

namespace ReadoutControl

namespace Topology

variable {queues other : List Queue} {modules : List DaqModule}

theorem ordered_cons_iff {first second : Queue} {rest : List Queue} :
    ((first :: second :: rest).map (·.inst)).Pairwise (· < ·) ↔
      first.inst < second.inst ∧ ((second :: rest).map (·.inst)).Pairwise (· < ·) := by
  rw [List.map_cons, List.map_cons, List.pairwise_cons]
  constructor
  · intro ⟨below, ordered⟩
    exact ⟨below second.inst (List.mem_cons_self ..), ordered⟩
  · intro ⟨lower, ordered⟩
    refine ⟨?_, ordered⟩
    intro name member
    rcases List.mem_cons.mp member with rfl | later
    · exact lower
    · exact String.lt_trans lower ((List.pairwise_cons.mp ordered).1 name later)

/-- Comparing neighbours is enough to know that every queue name is above all before it. -/
theorem isOrdered_iff {t : Topology} :
    t.isOrdered = true ↔ (t.queues.map (·.inst)).Pairwise (· < ·) := by
  obtain ⟨queues, modules⟩ := t
  induction queues with
  | nil => simp [isOrdered]
  | cons first rest ih =>
    cases rest with
    | nil => simp [isOrdered]
    | cons second rest =>
      rw [ordered_cons_iff, ← ih]
      simp [isOrdered]

theorem nodup_of_isOrdered {t : Topology} (ordered : t.isOrdered = true) :
    (t.queues.map (·.inst)).Nodup :=
  (isOrdered_iff.mp ordered).imp String.ne_of_lt

theorem ofParts_perm (queues : List Queue) (modules : List DaqModule) :
    (ofParts queues modules).queues.Perm queues := List.mergeSort_perm ..

theorem ofParts_sorted (queues : List Queue) (modules : List DaqModule) :
    ((ofParts queues modules).queues.map (·.inst)).Pairwise (· ≤ ·) := by
  have sorted : (queues.mergeSort fun a b => decide (a.inst ≤ b.inst)).Pairwise fun a b =>
      decide (a.inst ≤ b.inst) = true := by
    apply List.pairwise_mergeSort
    · intro a b c ab bc
      simp only [decide_eq_true_eq] at ab bc ⊢
      exact String.le_trans ab bc
    · intro a b
      simp only [Bool.or_eq_true, decide_eq_true_eq]
      exact String.le_total a.inst b.inst
  rw [List.pairwise_map]
  exact sorted.imp of_decide_eq_true

/-- Names that do not repeat are strictly increasing once they are sorted. -/
theorem ofParts_isOrdered (distinct : (queues.map (·.inst)).Nodup) :
    (ofParts queues modules).isOrdered = true := by
  have names := ((ofParts_perm queues modules).map (·.inst)).symm.nodup distinct
  apply isOrdered_iff.mpr
  apply ((ofParts_sorted queues modules).and names).imp
  intro a b ⟨le, ne⟩
  exact Std.lt_of_le_of_ne le ne

/-- The sorted names are those of the declared queues whatever their order, repeated ones too. -/
theorem ofParts_names (same : other.Perm queues) :
    (ofParts other modules).queues.map (·.inst) = (ofParts queues modules).queues.map (·.inst) := by
  have perm := ((ofParts_perm other modules).trans same).trans (ofParts_perm queues modules).symm
  apply List.Perm.eq_of_pairwise ?_ (ofParts_sorted other modules) (ofParts_sorted queues modules)
  · exact perm.map (·.inst)
  · intro a b _ _ ab ba
    exact String.le_antisymm ab ba

/-- Two topologies in order with the same queues and modules are the same. -/
theorem eq_of_isOrdered {t u : Topology} (perm : t.queues.Perm u.queues)
    (modules : t.modules = u.modules) (ordered : t.isOrdered = true)
    (ordered' : u.isOrdered = true) : t = u := by
  have below := List.pairwise_map.mp (isOrdered_iff.mp ordered)
  have below' := List.pairwise_map.mp (isOrdered_iff.mp ordered')
  have queues : t.queues = u.queues := by
    apply List.Perm.eq_of_pairwise ?_ below below' perm
    intro a b _ _ ab ba
    exact absurd ba (String.lt_asymm ab)
  cases t
  cases u
  exact congr (congrArg Topology.mk queues) modules

theorem ofParts_eq_of_perm (same : other.Perm queues) (distinct : (queues.map (·.inst)).Nodup) :
    ofParts other modules = ofParts queues modules := by
  apply eq_of_isOrdered
  · exact ((ofParts_perm other modules).trans same).trans (ofParts_perm queues modules).symm
  · rfl
  · exact ofParts_isOrdered ((same.map (·.inst)).symm.nodup distinct)
  · exact ofParts_isOrdered distinct

/-- Where a name repeats, the violation is the first repeated one of the sorted names, so it does not
depend on which of two queues of one name was declared first. -/
theorem error?_of_repeated (repeated : ¬ (queues.map (·.inst)).Nodup) (modules : List DaqModule)
    (registry : Registry) :
    ∃ name, firstRepeated? ((ofParts queues modules).queues.map (·.inst)) = some name ∧
      (ofParts queues modules).error? registry = some (.duplicateQueue name) := by
  have names : ¬ ((ofParts queues modules).queues.map (·.inst)).Nodup := by
    intro distinct
    exact repeated (((ofParts_perm queues modules).map (·.inst)).nodup distinct)
  rw [← firstRepeated?_eq_none_iff] at names
  obtain ⟨name, found⟩ := Option.ne_none_iff_exists'.mp names
  refine ⟨name, found, ?_⟩
  simp only [error?, found]

end Topology

namespace Plan

open ReadoutControl.Topology

/-- One declaration: of a queue, of a queue for each index, or of a module. -/
inductive Step where
  | queue (inst : String) (kind : QueueKind) (capacity : UInt64)
  | queueFamily (indices : List Nat) (kind : QueueKind) (capacity : UInt64) (name : Nat → String)
  | module (inst plugin : String) (connections : List Connection)

/-- The queues that a declaration adds. -/
def Step.queues : Step → List Queue
  | queue inst kind capacity => [⟨inst, kind, capacity⟩]
  | queueFamily indices kind capacity name => indices.map fun i => ⟨name i, kind, capacity⟩
  | module .. => []

/-- The modules that a declaration adds. -/
def Step.modules : Step → List DaqModule
  | module inst plugin connections => [⟨inst, plugin, connections⟩]
  | _ => []

/-- The plan after one more declaration. -/
def declare (p : Plan) : Step → Plan
  | .queue inst kind capacity => p.addQueue inst kind capacity
  | .queueFamily indices kind capacity name => p.addQueues indices kind capacity name
  | .module inst plugin connections => p.addModule inst plugin connections

/-- The plan of a run of declarations. -/
def ofSteps (steps : List Step) : Plan := steps.foldl declare empty

/-- A declaration adds its queues and modules behind those before, and changes nothing else. -/
theorem declare_eq (p : Plan) (step : Step) :
    p.declare step = ⟨p.queues ++ step.queues, p.modules ++ step.modules⟩ := by
  cases step with
  | queue => simp [declare, addQueue, Step.queues, Step.modules]
  | queueFamily => simp [declare, addQueues, Step.queues, Step.modules]
  | module => simp [declare, addModule, Step.queues, Step.modules]

theorem ofSteps_eq (steps : List Step) :
    ofSteps steps = ⟨steps.flatMap Step.queues, steps.flatMap Step.modules⟩ := by
  have run (p : Plan) : steps.foldl declare p =
      ⟨p.queues ++ steps.flatMap Step.queues, p.modules ++ steps.flatMap Step.modules⟩ := by
    induction steps generalizing p with
    | nil => simp
    | cons step rest ih =>
      rw [List.foldl_cons, ih, declare_eq]
      simp
  exact run empty

variable {p other : Plan} {registry : Registry}

theorem build_eq_ok_iff {t : Topology} :
    p.build registry = .ok t ↔ p.topology.error? registry = none ∧ p.topology = t := by
  unfold build validate
  cases p.topology.error? registry <;> simp [Except.map]

/-- A topology in order is that of a plan with its queues and modules. -/
theorem topology_eq_of_isOrdered {t : Topology} (queues : t.queues.Perm p.queues)
    (ordered : t.isOrdered = true) (modules : t.modules = p.modules) : p.topology = t := by
  have distinct := (queues.map (·.inst)).nodup (nodup_of_isOrdered ordered)
  apply eq_of_isOrdered
  · exact p.queues_perm.trans queues.symm
  · exact modules.symm
  · exact ofParts_isOrdered distinct
  · exact ordered

/-- A plan is built as the one topology in order that has its queues and modules, if that passes. -/
theorem build_eq_ok_iff_ordered {t : Topology} :
    p.build registry = .ok t ↔ t.queues.Perm p.queues ∧ t.isOrdered = true ∧
      t.modules = p.modules ∧ t.validate registry = .ok () := by
  rw [build_eq_ok_iff]
  constructor
  · rintro ⟨passed, rfl⟩
    have wired := (error?_eq_none_iff.mp passed).1
    have distinct := (p.queues_perm.map (·.inst)).nodup wired.queues_nodup
    exact ⟨p.queues_perm, ofParts_isOrdered distinct, rfl, validate_eq_ok_iff.mpr passed⟩
  · rintro ⟨perm, ordered, modules, passed⟩
    rw [topology_eq_of_isOrdered perm ordered modules]
    exact ⟨validate_eq_ok_iff.mp passed, rfl⟩

/-- The order in which queues are declared does not show in what is built. -/
theorem build_eq_of_perm (queues : other.queues.Perm p.queues) (modules : other.modules = p.modules) :
    other.build registry = p.build registry := by
  obtain ⟨queues', modules'⟩ := other
  obtain rfl : modules' = p.modules := modules
  by_cases distinct : (p.queues.map (·.inst)).Nodup
  · have same : topology ⟨queues', p.modules⟩ = p.topology := ofParts_eq_of_perm queues distinct
    rw [build, build, same]
  · have repeated : ¬ (queues'.map (·.inst)).Nodup := by
      intro names
      exact distinct ((queues.map (·.inst)).nodup names)
    obtain ⟨name, first, refused⟩ := error?_of_repeated distinct p.modules registry
    obtain ⟨name', first', refused'⟩ := error?_of_repeated repeated p.modules registry
    rw [ofParts_names queues, first] at first'
    obtain rfl := Option.some.inj first'
    simp only [build, topology, validate, refused, refused', Except.map]

/-- What is built from a run of declarations is the topology that has the declared queues in strictly
increasing order of their names and the declared modules as they come, if it passes. Another run
that declares the same modules in the same order and the same queues in any order has the same
outcome, be it a topology or a violation. -/
theorem build_ofSteps (registry : Registry) (steps : List Step) :
    (∀ t, (ofSteps steps).build registry = .ok t ↔
      t.queues.Perm (steps.flatMap Step.queues) ∧ t.isOrdered = true ∧
        t.modules = steps.flatMap Step.modules ∧ t.validate registry = .ok ()) ∧
    ∀ others : List Step, others.flatMap Step.modules = steps.flatMap Step.modules →
      (others.flatMap Step.queues).Perm (steps.flatMap Step.queues) →
        (ofSteps others).build registry = (ofSteps steps).build registry := by
  constructor
  · intro t
    rw [build_eq_ok_iff_ordered, ofSteps_eq]
  · intro others modules queues
    rw [ofSteps_eq, ofSteps_eq]
    exact build_eq_of_perm queues modules

/-- Declarations out of order are built in order. Where two queues share a name, the one that was
declared first stays first, and still both runs are refused alike. -/
theorem build_ofSteps_interleaved :
    (ofSteps [.queue "b" .spsc 5, .module "source" "FakeCardReader" [.output "out" "a"],
        .queue "a" .spsc 5]).build .builtin =
      .ok ⟨[⟨"a", .spsc, 5⟩, ⟨"b", .spsc, 5⟩],
        [⟨"source", "FakeCardReader", [.output "out" "a"]⟩]⟩ ∧
    ∃ steps others : List Step, steps =
        [.queueFamily [0, 1] .spsc 5 fun i => if i = 0 then "a" else "b",
          .module "source" "none" [], .queue "a" .mpmc 9] ∧
      others = [.queue "a" .mpmc 9, .queue "b" .spsc 5, .module "source" "none" [],
        .queue "a" .spsc 5] ∧
      others.flatMap Step.modules = steps.flatMap Step.modules ∧
      (others.flatMap Step.queues).Perm (steps.flatMap Step.queues) ∧
      (ofSteps others).build .builtin = (ofSteps steps).build .builtin := by
  constructor
  · exact ((build_ofSteps .builtin _).1 _).mpr ⟨by decide, rfl, rfl, rfl⟩
  · refine ⟨_, _, rfl, rfl, rfl, by decide, ?_⟩
    exact (build_ofSteps .builtin _).2 _ rfl (by decide)

end Plan

end ReadoutControl
