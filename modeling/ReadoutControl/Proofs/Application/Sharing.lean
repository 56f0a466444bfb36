import ReadoutControl.Proofs.Text.Numbered
import ReadoutControl.Proofs.Topology.Wires

set_option autoImplicit false

/-!
The queues that all handlers of an application write, and what a module writes besides them.
-/

namespace ReadoutControl

open Text (numbered)

/-- The queues for time synchronisation and for fragments, which take any number of producers. -/
def sharedQueues : List String := ["time_sync_q", "data_fragments_q"]

theorem numbered_notMem_sharedQueues (stem : String) (i : Nat) :
    numbered stem i ∉ sharedQueues := by
  simp [sharedQueues, Text.numbered_ne (show Text.isStem "time_sync_q" = true by decide),
    Text.numbered_ne (show Text.isStem "data_fragments_q" = true by decide)]

theorem filter_numbered (stem : String) (numbers : List Nat) :
    (numbers.map (numbered stem)).filter (· ∉ sharedQueues) = numbers.map (numbered stem) := by
  refine List.filter_eq_self.mpr fun name member => ?_
  obtain ⟨i, _, rfl⟩ := List.mem_map.mp member
  exact decide_eq_true (numbered_notMem_sharedQueues stem i)

/-- The queues that the module writes and that are not shared, once for each output to them. -/
def DaqModule.ownQueues (m : DaqModule) : List String :=
  (m.outputs.map (·.queue)).filter (· ∉ sharedQueues)

/-- A module whose connections are outputs to numbered queues writes these and no others. -/
theorem DaqModule.ownQueues_of_numbered {m : DaqModule} {names : Nat → String} {stem : String}
    {numbers : List Nat}
    (same : m.connections = numbers.map fun i => .output (names i) (numbered stem i)) :
    m.ownQueues = numbers.map (numbered stem) := by
  rw [ownQueues, outputs_of_outputs same, same, List.map_map]
  exact filter_numbered stem numbers

theorem DaqModule.ownQueues_append (inst plugin : String) (first second : List Connection) :
    (DaqModule.mk inst plugin (first ++ second)).ownQueues =
      (DaqModule.mk inst plugin first).ownQueues ++
        (DaqModule.mk inst plugin second).ownQueues := by
  simp [ownQueues, outputs]

theorem Topology.filter_writtenQueues (t : Topology) :
    t.writtenQueues.filter (· ∉ sharedQueues) = t.modules.flatMap DaqModule.ownQueues := by
  rw [writtenQueues, List.filter_flatMap]
  rfl

end ReadoutControl
