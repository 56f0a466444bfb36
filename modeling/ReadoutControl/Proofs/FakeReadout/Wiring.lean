import ReadoutControl.FakeReadout.Wiring
import ReadoutControl.Proofs.Application.Sharing

set_option autoImplicit false

/-!
The fake readout is wired for any number of links. Its queues and its modules are rosters, and apart
from the shared queues every queue is written once at most.
-/

namespace ReadoutControl.FakeReadout

open Text (numbered roster)

/-- The data links from which trigger primitives are made. -/
def softwareIndices (f : FakeReadout) : List Nat := if f.softwareTpg then f.dataIndices else []

theorem mem_softwareIndices {f : FakeReadout} {i : Nat} :
    i ∈ f.softwareIndices ↔ f.softwareTpg = true ∧ i ∈ f.dataIndices := by
  cases software : f.softwareTpg <;> simp [softwareIndices, software]

def queueFamilies (f : FakeReadout) : List (String × List Nat) :=
  [("data_requests_", f.dataIndices), ("wib_fake_link_", f.dataIndices),
    ("tp_fake_link_", f.tpIndices), ("sw_tp_link_", f.softwareIndices),
    ("tp_requests_", f.softwareIndices)]

def moduleFamilies (f : FakeReadout) : List (String × List Nat) :=
  [("datahandler_", f.dataIndices), ("tp_datahandler_", f.softwareIndices)]

theorem nodup_dataIndices (f : FakeReadout) : f.dataIndices.Nodup := List.nodup_range

theorem nodup_tpIndices (f : FakeReadout) : f.tpIndices.Nodup := List.nodup_range'

theorem nodup_softwareIndices (f : FakeReadout) : f.softwareIndices.Nodup := by
  unfold softwareIndices
  split
  · exact f.nodup_dataIndices
  · exact .nil

theorem distinct_queues (f : FakeReadout) : Text.Distinct sharedQueues f.queueFamilies where
  singles_nodup := by decide
  stems_nodup := by simp [queueFamilies]
  singles_stem := by decide
  stems_stem := by
    simp only [queueFamilies, List.map_cons, List.map_nil]
    decide
  numbers_nodup := by
    simp [queueFamilies, nodup_dataIndices, nodup_tpIndices, nodup_softwareIndices]

theorem distinct_modules (f : FakeReadout) : Text.Distinct ["fake_source"] f.moduleFamilies where
  singles_nodup := by decide
  stems_nodup := by simp [moduleFamilies]
  singles_stem := by decide
  stems_stem := by
    simp only [moduleFamilies, List.map_cons, List.map_nil]
    decide
  numbers_nodup := by simp [moduleFamilies, nodup_dataIndices, nodup_softwareIndices]

theorem plan_queues (f : FakeReadout) :
    f.plan.queues =
      [⟨"time_sync_q", .mpmc, Dimensions.sharedQueue⟩,
        ⟨"data_fragments_q", .mpmc, Dimensions.sharedQueue⟩] ++
      (f.dataIndices.map fun i => ⟨numbered "data_requests_" i, .spsc, requestQueueDepth⟩) ++
      (f.dataIndices.map fun i => ⟨numbered "wib_fake_link_" i, .spsc, Dimensions.linkQueue⟩) ++
      (f.tpIndices.map fun i => ⟨numbered "tp_fake_link_" i, .spsc, Dimensions.linkQueue⟩) ++
      (f.softwareIndices.map fun i => ⟨numbered "sw_tp_link_" i, .spsc, Dimensions.linkQueue⟩) ++
      (f.softwareIndices.map fun i => ⟨numbered "tp_requests_" i, .spsc, requestQueueDepth⟩) := by
  cases software : f.softwareTpg <;>
    simp [plan, addQueues, addSoftwareQueues, Plan.addQueue, Plan.addQueues, Plan.addModule,
      Plan.addModules, Plan.empty, softwareIndices, software]

def dataHandler (f : FakeReadout) (i : Nat) : DaqModule :=
  ⟨numbered "datahandler_" i, "DataLinkHandler", f.dataHandlerConnections i⟩

def tpHandler (i : Nat) : DaqModule :=
  ⟨numbered "tp_datahandler_" i, "DataLinkHandler", tpHandlerConnections i⟩

theorem plan_modules (f : FakeReadout) :
    f.plan.modules = ⟨"fake_source", "FakeCardReader", f.sourceOutputs⟩ ::
      (f.dataIndices.map f.dataHandler ++ f.softwareIndices.map tpHandler) := by
  cases software : f.softwareTpg <;>
    simp only [plan, addQueues, addSoftwareQueues, Plan.addQueue, Plan.addQueues, Plan.addModule,
      Plan.addModules, Plan.empty, softwareIndices, software, List.nil_append, List.cons_append,
      List.map_nil, List.append_nil, if_true, if_false, Bool.false_eq_true] <;>
    rfl

theorem queueNames_eq (f : FakeReadout) :
    f.plan.queues.map (·.inst) = roster sharedQueues f.queueFamilies := by
  simp [plan_queues, roster, queueFamilies, sharedQueues, Function.comp_def]

theorem moduleNames_eq (f : FakeReadout) :
    f.plan.topology.moduleNames = roster ["fake_source"] f.moduleFamilies := by
  change f.plan.modules.map (·.inst) = _
  simp [plan_modules, roster, moduleFamilies, Function.comp_def, dataHandler, tpHandler]

theorem sharedQueue_mem (f : FakeReadout) (name : String) (shared : name ∈ sharedQueues) :
    name ∈ f.plan.queues.map (·.inst) := by
  rw [queueNames_eq, Text.mem_roster]
  exact .inl shared

theorem numbered_mem (f : FakeReadout) (stem : String) {numbers : List Nat}
    (family : (stem, numbers) ∈ f.queueFamilies) {i : Nat} (number : i ∈ numbers) :
    numbered stem i ∈ f.plan.queues.map (·.inst) := by
  rw [queueNames_eq, Text.mem_roster]
  exact .inr ⟨_, family, i, number, rfl⟩

/-- A handler reaches declared queues if the two queues it is given are declared. -/
theorem handlerConnections_connected (f : FakeReadout) {raw requests : String}
    (hraw : raw ∈ f.plan.queues.map (·.inst)) (hrequests : requests ∈ f.plan.queues.map (·.inst)) :
    ∀ c ∈ handlerConnections raw requests, c.queue ∈ f.plan.queues.map (·.inst) := by
  intro c connection
  have timeSync := f.sharedQueue_mem "time_sync_q" (by decide)
  have fragments := f.sharedQueue_mem "data_fragments_q" (by decide)
  simp only [handlerConnections, List.mem_cons, List.not_mem_nil, or_false] at connection
  rcases connection with rfl | rfl | rfl | rfl
  · exact hraw
  · exact timeSync
  · exact hrequests
  · exact fragments

theorem connected (f : FakeReadout) :
    ∀ m ∈ f.plan.modules, ∀ c ∈ m.connections, c.queue ∈ f.plan.queues.map (·.inst) := by
  intro m member c connection
  rw [plan_modules, List.mem_cons, List.mem_append] at member
  rcases member with rfl | data | software
  · rcases List.mem_append.mp connection with data | tp
    · obtain ⟨i, number, rfl⟩ := List.mem_map.mp data
      exact f.numbered_mem "wib_fake_link_" (by simp [queueFamilies]) number
    · obtain ⟨i, number, rfl⟩ := List.mem_map.mp tp
      exact f.numbered_mem "tp_fake_link_" (by simp [queueFamilies]) number
  · obtain ⟨i, number, rfl⟩ := List.mem_map.mp data
    rcases List.mem_append.mp connection with common | own
    · exact f.handlerConnections_connected
        (f.numbered_mem "wib_fake_link_" (by simp [queueFamilies]) number)
        (f.numbered_mem "data_requests_" (by simp [queueFamilies]) number) c common
    · cases software : f.softwareTpg with
      | false => simp [software] at own
      | true =>
        simp only [software, if_true, List.mem_singleton] at own
        subst own
        exact f.numbered_mem "sw_tp_link_" (by simp [queueFamilies])
          (mem_softwareIndices.mpr ⟨software, number⟩)
  · obtain ⟨i, number, rfl⟩ := List.mem_map.mp software
    exact f.handlerConnections_connected
      (f.numbered_mem "sw_tp_link_" (by simp [queueFamilies]) number)
      (f.numbered_mem "tp_requests_" (by simp [queueFamilies]) number) c connection

/-- A queue for one producer is none of the shared ones. -/
theorem single_notMem_sharedQueues (f : FakeReadout) :
    ∀ q ∈ f.plan.queues, q.kind.isMultiProducer = false → q.inst ∉ sharedQueues := by
  intro q member single
  simp only [plan_queues, List.mem_append, List.mem_cons, List.not_mem_nil, or_false,
    List.mem_map] at member
  rcases member with (((((rfl | rfl) | own) | own) | own) | own) | own
  · contradiction
  · contradiction
  all_goals
    obtain ⟨i, _, rfl⟩ := own
    exact numbered_notMem_sharedQueues _ i

theorem ownQueues_dataHandler (f : FakeReadout) (i : Nat) :
    (f.dataHandler i).ownQueues = if f.softwareTpg then [numbered "sw_tp_link_" i] else [] := by
  have own := numbered_notMem_sharedQueues "sw_tp_link_" i
  cases software : f.softwareTpg <;>
    simp_all [dataHandler, dataHandlerConnections, handlerConnections, DaqModule.ownQueues,
      DaqModule.outputs, Connection.input, Connection.output, sharedQueues]

theorem ownQueues_tpHandler (i : Nat) : (tpHandler i).ownQueues = [] := by
  simp [tpHandler, tpHandlerConnections, handlerConnections, DaqModule.ownQueues,
    DaqModule.outputs, Connection.input, Connection.output, sharedQueues]

/-- Apart from the shared queues, the source and the data handlers write each queue once. -/
theorem written_unshared (f : FakeReadout) :
    f.plan.topology.writtenQueues.filter (· ∉ sharedQueues) =
      roster [] [("wib_fake_link_", f.dataIndices), ("tp_fake_link_", f.tpIndices),
        ("sw_tp_link_", f.softwareIndices)] := by
  have software : f.dataIndices.flatMap
      (fun i => if f.softwareTpg then [numbered "sw_tp_link_" i] else []) =
        f.softwareIndices.map (numbered "sw_tp_link_") := by
    cases software : f.softwareTpg <;> simp [softwareIndices, software, List.map_eq_flatMap]
  have modules : f.plan.topology.modules = f.plan.modules := rfl
  rw [Topology.filter_writtenQueues, modules, plan_modules, List.flatMap_cons,
    List.flatMap_append, List.flatMap_map, List.flatMap_map, sourceOutputs,
    DaqModule.ownQueues_append, DaqModule.ownQueues_of_numbered rfl,
    DaqModule.ownQueues_of_numbered rfl]
  simp only [ownQueues_dataHandler, ownQueues_tpHandler, software]
  simp [roster]

theorem plan_wired (f : FakeReadout) : f.plan.topology.Wired := by
  refine Plan.wired sharedQueues ?_ ?_ f.connected f.single_notMem_sharedQueues ?_
  · rw [queueNames_eq]
    exact f.distinct_queues.nodup_roster
  · change f.plan.topology.moduleNames.Nodup
    rw [moduleNames_eq]
    exact f.distinct_modules.nodup_roster
  · rw [written_unshared]
    refine Text.Distinct.nodup_roster ⟨by decide, by simp, by simp, ?_, ?_⟩
    · simp only [List.map_cons, List.map_nil]
      decide
    · simp [nodup_dataIndices, nodup_tpIndices, nodup_softwareIndices]

end ReadoutControl.FakeReadout
