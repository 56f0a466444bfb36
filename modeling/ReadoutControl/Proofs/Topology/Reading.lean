import ReadoutControl.Proofs.Json.Record
import ReadoutControl.Topology.Basic

set_option autoImplicit false

/-!
A topology is read back from the tree it was written to, queue by queue and module by module.
-/

namespace ReadoutControl

open Json Json.Node

theorem QueueKind.read?_tree (k : QueueKind) : QueueKind.read? (Json.str k.name).tree = some k := by
  cases k <;> decide

theorem Queue.read?_tree (q : Queue) : Queue.read? q.toJson.tree = some q := by
  obtain ⟨record, found, lookup⟩ := record?_tree (v := q.toJson) rfl (by simp)
    ["inst", "kind", "capacity"] []
  have inst := required?_of_lookup (lookup "inst") (text?_tree q.inst)
  have kind := required?_of_lookup (lookup "kind") q.kind.read?_tree
  have capacity := required?_of_lookup (lookup "capacity") (uint64?_tree q.capacity)
  simp only [Queue.read?, found, inst, kind, capacity, Option.bind_eq_bind, Option.bind_some]
  rfl

theorem Direction.read?_tree (d : Direction) : Direction.read? (Json.str d.name).tree = some d := by
  cases d <;> decide

theorem Connection.read?_tree (c : Connection) : Connection.read? c.toJson.tree = some c := by
  obtain ⟨record, found, lookup⟩ := record?_tree (v := c.toJson) rfl (by simp)
    ["name", "inst", "dir"] []
  have name := required?_of_lookup (lookup "name") (text?_tree c.name)
  have queue := required?_of_lookup (lookup "inst") (text?_tree c.queue)
  have dir := required?_of_lookup (lookup "dir") c.dir.read?_tree
  simp only [Connection.read?, found, name, queue, dir, Option.bind_eq_bind, Option.bind_some]
  rfl

theorem DaqModule.readConnections?_tree (connections : List Connection) :
    DaqModule.readConnections?
      (Json.obj [("qinfos", .arr (connections.map Connection.toJson))]).tree =
        some connections := by
  obtain ⟨record, found, lookup⟩ := record?_tree (v := .obj [("qinfos",
    .arr (connections.map Connection.toJson))]) rfl (by simp) ["qinfos"] []
  have each := required?_of_lookup (lookup "qinfos") (list?_tree fun c _ => Connection.read?_tree c)
  simp only [DaqModule.readConnections?, found, each, Option.bind_eq_bind, Option.bind_some]

theorem DaqModule.read?_tree (m : DaqModule) : DaqModule.read? m.toJson.tree = some m := by
  obtain ⟨record, found, lookup⟩ := record?_tree (v := m.toJson) rfl (by simp)
    ["inst", "plugin", "data"] []
  have inst := required?_of_lookup (lookup "inst") (text?_tree m.inst)
  have plugin := required?_of_lookup (lookup "plugin") (text?_tree m.plugin)
  have data := required?_of_lookup (lookup "data") (readConnections?_tree m.connections)
  simp only [DaqModule.read?, found, inst, plugin, data, Option.bind_eq_bind, Option.bind_some]
  rfl

theorem Topology.read?_tree (t : Topology) : Topology.read? t.toJson.tree = some t := by
  obtain ⟨record, found, lookup⟩ := record?_tree (v := t.toJson) rfl (by simp)
    ["queues", "modules"] []
  have queues := required?_of_lookup (lookup "queues") (list?_tree fun q _ => Queue.read?_tree q)
  have modules := required?_of_lookup (lookup "modules")
    (list?_tree fun m _ => DaqModule.read?_tree m)
  simp only [Topology.read?, found, queues, modules, Option.bind_eq_bind, Option.bind_some]
  rfl

end ReadoutControl
