import ReadoutControl.Proofs.Json.Shape
import ReadoutControl.Topology.Basic

set_option autoImplicit false

/-!
The trees that are read as a topology: one record for each queue, each connection and each module.
-/

namespace ReadoutControl

open Json Json.Node

theorem QueueKind.read?_eq_some_iff {node : Json.Node} {k : QueueKind} :
    QueueKind.read? node = some k ↔ Chooses k.name node := by
  apply choice?_eq_some_iff
  · intro k
    cases k <;> decide
  · decide

theorem Direction.read?_eq_some_iff {node : Json.Node} {d : Direction} :
    Direction.read? node = some d ↔ Chooses d.name node := by
  apply choice?_eq_some_iff
  · intro d
    cases d <;> decide
  · decide

inductive Queue.Written (q : Queue) : Json.Node → Prop
  | fields {node kind : Json.Node} :
    IsRecord ["inst", "kind", "capacity"] node
      [some (.str q.inst), some kind, some (.int q.capacity.toNat)] →
    Chooses q.kind.name kind → Written q node

inductive Connection.Written (c : Connection) : Json.Node → Prop
  | fields {node dir : Json.Node} :
    IsRecord ["name", "inst", "dir"] node [some (.str c.name), some (.str c.queue), some dir] →
    Chooses c.dir.name dir → Written c node

inductive DaqModule.Written (m : DaqModule) : Json.Node → Prop
  | fields {node data : Json.Node} {connections : List Json.Node} :
    IsRecord ["inst", "plugin", "data"] node
      [some (.str m.inst), some (.str m.plugin), some data] →
    IsRecord ["qinfos"] data [some (.arr connections)] →
    List.Forall₂ Connection.Written m.connections connections → Written m node

/-- Each queue and each module of the topology stands in the tree, in its place. -/
inductive Topology.Written (t : Topology) : Json.Node → Prop
  | fields {node : Json.Node} {queues modules : List Json.Node} :
    IsRecord ["queues", "modules"] node [some (.arr queues), some (.arr modules)] →
    List.Forall₂ Queue.Written t.queues queues →
    List.Forall₂ DaqModule.Written t.modules modules → Written t node

theorem Queue.read?_eq_some_iff {node : Json.Node} {q : Queue} :
    Queue.read? node = some q ↔ q.Written node := by
  simp only [Queue.read?, Option.bind_eq_bind, Option.bind_eq_some_iff, Option.pure_def,
    Option.some.injEq, required?_eq_some_iff, text?_eq_some_iff, uint64?_eq_some_iff,
    QueueKind.read?_eq_some_iff]
  constructor
  · rintro ⟨record, found, _, ⟨_, inst, rfl⟩, _, ⟨_, kind, chosen⟩, _, ⟨_, capacity, rfl⟩, rfl⟩
    refine .fields ((record?_iff (by simp)).mp ⟨record, found, ?_⟩) chosen
    simp [inst, kind, capacity]
  · rintro ⟨shape, chosen⟩
    obtain ⟨record, found, lookups⟩ := (record?_iff (by simp)).mpr shape
    simp only [List.map_cons, List.map_nil, List.cons.injEq, and_true] at lookups
    obtain ⟨inst, kind, capacity⟩ := lookups
    exact ⟨record, found, _, ⟨_, inst, rfl⟩, _, ⟨_, kind, chosen⟩, _, ⟨_, capacity, rfl⟩, rfl⟩

theorem Connection.read?_eq_some_iff {node : Json.Node} {c : Connection} :
    Connection.read? node = some c ↔ c.Written node := by
  simp only [Connection.read?, Option.bind_eq_bind, Option.bind_eq_some_iff, Option.pure_def,
    Option.some.injEq, required?_eq_some_iff, text?_eq_some_iff, Direction.read?_eq_some_iff]
  constructor
  · rintro ⟨record, found, _, ⟨_, name, rfl⟩, _, ⟨_, queue, rfl⟩, _, ⟨_, dir, chosen⟩, rfl⟩
    refine .fields ((record?_iff (by simp)).mp ⟨record, found, ?_⟩) chosen
    simp [name, queue, dir]
  · rintro ⟨shape, chosen⟩
    obtain ⟨record, found, lookups⟩ := (record?_iff (by simp)).mpr shape
    simp only [List.map_cons, List.map_nil, List.cons.injEq, and_true] at lookups
    obtain ⟨name, queue, dir⟩ := lookups
    exact ⟨record, found, _, ⟨_, name, rfl⟩, _, ⟨_, queue, rfl⟩, _, ⟨_, dir, chosen⟩, rfl⟩

theorem DaqModule.readConnections?_eq_some_iff {node : Json.Node} {cs : List Connection} :
    DaqModule.readConnections? node = some cs ↔
      ∃ connections, IsRecord ["qinfos"] node [some (.arr connections)] ∧
        List.Forall₂ Connection.Written cs connections := by
  simp only [DaqModule.readConnections?, Option.bind_eq_bind, Option.bind_eq_some_iff,
    required?_eq_some_iff, list?_eq_some_iff, Connection.read?_eq_some_iff]
  constructor
  · rintro ⟨record, found, _, qinfos, connections, rfl, each⟩
    refine ⟨connections, (record?_iff (by simp)).mp ⟨record, found, ?_⟩, each⟩
    simp [qinfos]
  · rintro ⟨connections, shape, each⟩
    obtain ⟨record, found, lookups⟩ := (record?_iff (by simp)).mpr shape
    exact ⟨record, found, _, by simpa using lookups, connections, rfl, each⟩

theorem DaqModule.read?_eq_some_iff {node : Json.Node} {m : DaqModule} :
    DaqModule.read? node = some m ↔ m.Written node := by
  simp only [DaqModule.read?, Option.bind_eq_bind, Option.bind_eq_some_iff, Option.pure_def,
    Option.some.injEq, required?_eq_some_iff, text?_eq_some_iff, readConnections?_eq_some_iff]
  constructor
  · rintro ⟨record, found, _, ⟨_, inst, rfl⟩, _, ⟨_, plugin, rfl⟩, _,
      ⟨_, data, _, qinfos, each⟩, rfl⟩
    refine .fields ((record?_iff (by simp)).mp ⟨record, found, ?_⟩) qinfos each
    simp [inst, plugin, data]
  · rintro ⟨shape, qinfos, each⟩
    obtain ⟨record, found, lookups⟩ := (record?_iff (by simp)).mpr shape
    simp only [List.map_cons, List.map_nil, List.cons.injEq, and_true] at lookups
    obtain ⟨inst, plugin, data⟩ := lookups
    exact ⟨record, found, _, ⟨_, inst, rfl⟩, _, ⟨_, plugin, rfl⟩, _,
      ⟨_, data, _, qinfos, each⟩, rfl⟩

/-- A tree is read as a topology if it says just that topology. -/
theorem Topology.read?_eq_some_iff {node : Json.Node} {t : Topology} :
    Topology.read? node = some t ↔ t.Written node := by
  simp only [Topology.read?, Option.bind_eq_bind, Option.bind_eq_some_iff, Option.pure_def,
    Option.some.injEq, required?_eq_some_iff, list?_eq_some_iff, Queue.read?_eq_some_iff,
    DaqModule.read?_eq_some_iff]
  constructor
  · rintro ⟨record, found, _, ⟨_, queues, _, rfl, eachQueue⟩, _,
      ⟨_, modules, _, rfl, eachModule⟩, rfl⟩
    refine .fields ((record?_iff (by simp)).mp ⟨record, found, ?_⟩) eachQueue eachModule
    simp [queues, modules]
  · rintro ⟨shape, eachQueue, eachModule⟩
    obtain ⟨record, found, lookups⟩ := (record?_iff (by simp)).mpr shape
    simp only [List.map_cons, List.map_nil, List.cons.injEq, and_true] at lookups
    obtain ⟨queues, modules⟩ := lookups
    exact ⟨record, found, _, ⟨_, queues, _, rfl, eachQueue⟩, _,
      ⟨_, modules, _, rfl, eachModule⟩, rfl⟩

end ReadoutControl
