import ReadoutControl.Proofs.Topology.Wiring

set_option autoImplicit false

/-!
The connections of a topology, each with the module that makes it. How many of them reach a queue
in one direction is how often the queue stands among those reached in that direction.
-/

namespace ReadoutControl

/-- A connection together with the module that makes it. -/
structure Wire where
  owner : DaqModule
  connection : Connection
  deriving DecidableEq

/-- The queues that the module reaches in a direction, once for each connection. -/
def DaqModule.reached (m : DaqModule) (dir : Direction) : List String :=
  (m.connections.filter (·.dir = dir)).map (·.queue)

namespace DaqModule

theorem count_reached (m : DaqModule) (dir : Direction) (queue : String) :
    (m.reached dir).count queue =
      (m.connections.filter fun c => c.dir = dir ∧ c.queue = queue).length := by
  rw [reached, List.count_eq_countP, List.countP_map, List.countP_filter,
    List.countP_eq_length_filter]
  congr 2
  funext c
  rw [Function.comp_apply, Bool.decide_and, Bool.and_comm]
  rfl

theorem mem_reached {m : DaqModule} {c : Connection} (member : c ∈ m.connections) :
    c.queue ∈ m.reached c.dir :=
  List.mem_map_of_mem (List.mem_filter.mpr ⟨member, decide_eq_true rfl⟩)

theorem reached_append (inst plugin : String) (first second : List Connection)
    (dir : Direction) :
    (DaqModule.mk inst plugin (first ++ second)).reached dir =
      (DaqModule.mk inst plugin first).reached dir ++
        (DaqModule.mk inst plugin second).reached dir := by
  simp [reached]

section Outputs

variable {m : DaqModule} {names queues : Nat → String} {numbers : List Nat}
  (same : m.connections = numbers.map fun i => .output (names i) (queues i))

include same

theorem outputs_of_outputs : m.outputs = m.connections := by
  apply List.filter_eq_self.mpr
  intro c member
  rw [same] at member
  obtain ⟨i, _, rfl⟩ := List.mem_map.mp member
  rfl

theorem reached_output_of_outputs : m.reached .output = numbers.map queues := by
  rw [reached, ← DaqModule.outputs, outputs_of_outputs same, same, List.map_map]
  rfl

theorem reached_input_of_outputs : m.reached .input = [] := by
  apply List.map_eq_nil_iff.mpr
  apply List.filter_eq_nil_iff.mpr
  intro c member
  rw [same] at member
  obtain ⟨i, _, rfl⟩ := List.mem_map.mp member
  simp [Connection.output]

end Outputs

end DaqModule

namespace Topology

/-- All connections, in module then connection order. -/
def wires (t : Topology) : List Wire := t.modules.flatMap fun m => m.connections.map (Wire.mk m)

/-- The connections of a direction to the queue of that name. -/
def wiresAt (t : Topology) (dir : Direction) (queue : String) : List Wire :=
  t.wires.filter fun w => w.connection.dir = dir ∧ w.connection.queue = queue

/-- The queues that the modules reach in a direction, once for each connection. -/
def reached (t : Topology) (dir : Direction) : List String := t.modules.flatMap (·.reached dir)

variable {t : Topology} {dir : Direction} {queue : String}

theorem mem_wires {w : Wire} :
    w ∈ t.wires ↔ w.owner ∈ t.modules ∧ w.connection ∈ w.owner.connections := by
  obtain ⟨m, c⟩ := w
  simp only [wires, List.mem_flatMap, List.mem_map, Wire.mk.injEq]
  constructor
  · rintro ⟨_, owner, _, connection, rfl, rfl⟩
    exact ⟨owner, connection⟩
  · rintro ⟨owner, connection⟩
    exact ⟨m, owner, c, connection, rfl, rfl⟩

theorem mem_wiresAt {w : Wire} :
    w ∈ t.wiresAt dir queue ↔
      w ∈ t.wires ∧ w.connection.dir = dir ∧ w.connection.queue = queue := by
  simp [wiresAt]

theorem mem_wiresAt_of_mem {m : DaqModule} {c : Connection} (member : m ∈ t.modules)
    (connection : c ∈ m.connections) : ⟨m, c⟩ ∈ t.wiresAt c.dir c.queue :=
  mem_wiresAt.mpr ⟨mem_wires.mpr ⟨member, connection⟩, rfl, rfl⟩

theorem wiresAt_eq_flatMap (t : Topology) (dir : Direction) (queue : String) :
    t.wiresAt dir queue = t.modules.flatMap fun m =>
      (m.connections.filter fun c => c.dir = dir ∧ c.queue = queue).map (Wire.mk m) := by
  simp only [wiresAt, wires, List.filter_flatMap, List.filter_map]
  rfl

theorem owner_of_mem_wiresAt {w : Wire} (member : w ∈ t.wiresAt dir queue) :
    w.owner ∈ t.modules ∧ queue ∈ w.owner.reached dir := by
  obtain ⟨wired, rfl, rfl⟩ := mem_wiresAt.mp member
  obtain ⟨owner, connection⟩ := mem_wires.mp wired
  exact ⟨owner, DaqModule.mem_reached connection⟩

/-- The modules that write a queue are the owners of the output connections to it. -/
theorem producers_eq (t : Topology) (queue : String) :
    t.producers queue = (t.wiresAt .output queue).map (·.owner.inst) := by
  have outputs (m : DaqModule) :
      (m.outputs.map fun c => (m.inst, c)).filter (fun output => output.2.queue = queue) =
        (m.connections.filter fun c => c.dir = .output ∧ c.queue = queue).map fun c =>
          (m.inst, c) := by
    simp [DaqModule.outputs, List.filter_map, List.filter_filter, Function.comp_def, and_comm]
  simp only [producers, allOutputs, List.filter_flatMap, outputs, wiresAt_eq_flatMap,
    List.map_flatMap, List.map_map]
  rfl

theorem length_producers_eq (t : Topology) (queue : String) :
    (t.producers queue).length = (t.wiresAt .output queue).length := by
  rw [producers_eq, List.length_map]

theorem reached_output (t : Topology) : t.reached .output = t.writtenQueues := rfl

theorem length_wiresAt (t : Topology) (dir : Direction) (queue : String) :
    (t.wiresAt dir queue).length = (t.reached dir).count queue := by
  rw [wiresAt_eq_flatMap, reached, List.length_flatMap, List.count_flatMap]
  simp only [Function.comp_def, DaqModule.count_reached, List.length_map]

/-- A module owns as many connections to a queue as it reaches the queue. -/
theorem owners_wiresAt (t : Topology) (dir : Direction) (queue : String) :
    (t.wiresAt dir queue).map (·.owner) =
      t.modules.flatMap fun m => List.replicate ((m.reached dir).count queue) m := by
  rw [wiresAt_eq_flatMap, List.map_flatMap]
  congr 1
  funext m
  rw [DaqModule.count_reached, List.map_map]
  exact List.map_const' ..

/-- A connection to a queue that is reached once is the only one. -/
theorem wiresAt_eq_singleton {w : Wire} (once : (t.reached dir).count queue = 1)
    (member : w ∈ t.wiresAt dir queue) : t.wiresAt dir queue = [w] := by
  rw [← length_wiresAt] at once
  obtain ⟨only, same⟩ := List.length_eq_one_iff.mp once
  rw [same, List.mem_singleton] at member
  rw [same, member]

end Topology

end ReadoutControl
