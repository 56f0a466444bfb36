import ReadoutControl.MiniDaq.Wiring
import ReadoutControl.Proofs.Application.Sharing

set_option autoImplicit false

/-!
The mini DAQ is wired for any number of links. Decisions, records and tokens pass through queues of
their own, and every link adds three more.
-/

namespace ReadoutControl.MiniDaq

open Text (numbered roster)

def queueSingles : List String :=
  ["time_sync_q", "token_q", "trigger_decision_q", "trigger_decision_copy_for_bookkeeping",
    "trigger_record_q", "data_fragments_q"]

def queueFamilies (m : MiniDaq) : List (String × List Nat) :=
  [("data_requests_", m.indices), ("wib_fake_link_", m.indices), ("snb_link_", m.indices)]

def moduleSingles : List String := ["tde", "rqg", "ffr", "datawriter", "fake_source"]

def moduleFamilies (m : MiniDaq) : List (String × List Nat) :=
  [("datahandler_", m.indices), ("data_recorder_", m.indices)]

theorem nodup_indices (m : MiniDaq) : m.indices.Nodup := List.nodup_range

theorem distinct_queues (m : MiniDaq) : Text.Distinct queueSingles m.queueFamilies where
  singles_nodup := by decide
  stems_nodup := by simp [queueFamilies]
  singles_stem := by decide
  stems_stem := by
    simp only [queueFamilies, List.map_cons, List.map_nil]
    decide
  numbers_nodup := by simp [queueFamilies, nodup_indices]

theorem distinct_modules (m : MiniDaq) : Text.Distinct moduleSingles m.moduleFamilies where
  singles_nodup := by decide
  stems_nodup := by simp [moduleFamilies]
  singles_stem := by decide
  stems_stem := by
    simp only [moduleFamilies, List.map_cons, List.map_nil]
    decide
  numbers_nodup := by simp [moduleFamilies, nodup_indices]

theorem plan_queues (m : MiniDaq) :
    m.plan.queues =
      [⟨"time_sync_q", .mpmc, Dimensions.sharedQueue⟩,
        ⟨"token_q", .spsc, dataflowQueueDepth⟩,
        ⟨"trigger_decision_q", .spsc, dataflowQueueDepth⟩,
        ⟨"trigger_decision_copy_for_bookkeeping", .spsc, dataflowQueueDepth⟩,
        ⟨"trigger_record_q", .spsc, dataflowQueueDepth⟩,
        ⟨"data_fragments_q", .mpmc, Dimensions.sharedQueue⟩] ++
      (m.indices.map fun i => ⟨numbered "data_requests_" i, .spsc, dataflowQueueDepth⟩) ++
      (m.indices.map fun i => ⟨numbered "wib_fake_link_" i, .spsc, Dimensions.linkQueue⟩) ++
      (m.indices.map fun i => ⟨numbered "snb_link_" i, .spsc, Dimensions.linkQueue⟩) := by
  simp [plan, addModules, addQueues, Plan.addQueue, Plan.addQueues, Plan.addModule,
    Plan.addModules, Plan.empty]

def dataHandler (i : Nat) : DaqModule :=
  ⟨numbered "datahandler_" i, "DataLinkHandler", handlerConnections i⟩

def recorder (i : Nat) : DaqModule :=
  ⟨numbered "data_recorder_" i, "DataRecorder", recorderConnections i⟩

theorem plan_modules (m : MiniDaq) :
    m.plan.modules =
      [⟨"tde", "TriggerDecisionEmulator", triggerConnections⟩,
        ⟨"rqg", "RequestGenerator", m.requestConnections⟩,
        ⟨"ffr", "FragmentReceiver", fragmentConnections⟩,
        ⟨"datawriter", "DataWriter", writerConnections⟩,
        ⟨"fake_source", "FakeCardReader", m.sourceConnections⟩] ++
      (m.indices.map dataHandler ++ m.indices.map recorder) := by
  simp only [plan, addModules, addQueues, Plan.addQueue, Plan.addQueues, Plan.addModule,
    Plan.addModules, Plan.empty, List.nil_append, List.cons_append, List.append_assoc]
  rfl

theorem queueNames_eq (m : MiniDaq) :
    m.plan.queues.map (·.inst) = roster queueSingles m.queueFamilies := by
  simp [plan_queues, roster, queueFamilies, queueSingles, Function.comp_def]

theorem moduleNames_eq (m : MiniDaq) :
    m.plan.topology.moduleNames = roster moduleSingles m.moduleFamilies := by
  change m.plan.modules.map (·.inst) = _
  simp [plan_modules, roster, moduleFamilies, moduleSingles, Function.comp_def, dataHandler,
    recorder]

theorem single_mem (m : MiniDaq) (name : String) (single : name ∈ queueSingles) :
    name ∈ m.plan.queues.map (·.inst) := by
  rw [queueNames_eq, Text.mem_roster]
  exact .inl single

theorem numbered_mem (m : MiniDaq) (stem : String) (family : (stem, m.indices) ∈ m.queueFamilies)
    {i : Nat} (number : i ∈ m.indices) : numbered stem i ∈ m.plan.queues.map (·.inst) := by
  rw [queueNames_eq, Text.mem_roster]
  exact .inr ⟨_, family, i, number, rfl⟩

theorem connected (m : MiniDaq) :
    ∀ d ∈ m.plan.modules, ∀ c ∈ d.connections, c.queue ∈ m.plan.queues.map (·.inst) := by
  have trigger : ∀ c ∈ triggerConnections, c.queue ∈ queueSingles := by decide
  have fragment : ∀ c ∈ fragmentConnections, c.queue ∈ queueSingles := by decide
  have writer : ∀ c ∈ writerConnections, c.queue ∈ queueSingles := by decide
  intro d member c connection
  rw [plan_modules, List.mem_append, List.mem_append] at member
  rcases member with single | handler | recorder
  · simp only [List.mem_cons, List.not_mem_nil, or_false] at single
    rcases single with rfl | rfl | rfl | rfl | rfl
    · exact m.single_mem _ (trigger c connection)
    · simp only [requestConnections, List.mem_cons] at connection
      rcases connection with rfl | rfl | links
      · exact m.single_mem "trigger_decision_q" (by decide)
      · exact m.single_mem "trigger_decision_copy_for_bookkeeping" (by decide)
      · obtain ⟨i, number, rfl⟩ := List.mem_map.mp links
        exact m.numbered_mem "data_requests_" (by simp [queueFamilies]) number
    · exact m.single_mem _ (fragment c connection)
    · exact m.single_mem _ (writer c connection)
    · obtain ⟨i, number, rfl⟩ := List.mem_map.mp connection
      exact m.numbered_mem "wib_fake_link_" (by simp [queueFamilies]) number
  · obtain ⟨i, number, rfl⟩ := List.mem_map.mp handler
    have raw := m.numbered_mem "wib_fake_link_" (by simp [queueFamilies]) number
    have requests := m.numbered_mem "data_requests_" (by simp [queueFamilies]) number
    have snb := m.numbered_mem "snb_link_" (by simp [queueFamilies]) number
    simp only [dataHandler, handlerConnections, List.mem_cons, List.not_mem_nil, or_false]
      at connection
    rcases connection with rfl | rfl | rfl | rfl | rfl
    · exact raw
    · exact m.single_mem "time_sync_q" (by decide)
    · exact requests
    · exact m.single_mem "data_fragments_q" (by decide)
    · exact snb
  · obtain ⟨i, number, rfl⟩ := List.mem_map.mp recorder
    obtain rfl := List.mem_singleton.mp connection
    exact m.numbered_mem "snb_link_" (by simp [queueFamilies]) number

theorem single_notMem_sharedQueues (m : MiniDaq) :
    ∀ q ∈ m.plan.queues, q.kind.isMultiProducer = false → q.inst ∉ sharedQueues := by
  intro q member single
  simp only [plan_queues, List.mem_append, List.mem_map] at member
  rcases member with ((alone | own) | own) | own
  · revert single
    revert q
    decide
  all_goals
    obtain ⟨i, _, rfl⟩ := own
    exact numbered_notMem_sharedQueues _ i

/-- The outputs through which the request generator asks for the data of the links. -/
def requestOutputs (m : MiniDaq) : List Connection :=
  m.indices.map fun i =>
    .output (numbered "data_request_" i ++ "_output_queue") (numbered "data_requests_" i)

theorem requestConnections_eq (m : MiniDaq) :
    m.requestConnections =
      [.input "trigger_decision_input_queue" "trigger_decision_q",
        .output "trigger_decision_for_event_building" "trigger_decision_copy_for_bookkeeping"] ++
      m.requestOutputs := rfl

theorem ownQueues_request (m : MiniDaq) :
    (DaqModule.mk "rqg" "RequestGenerator" m.requestConnections).ownQueues =
      "trigger_decision_copy_for_bookkeeping" :: m.indices.map (numbered "data_requests_") := by
  have routes :=
    DaqModule.ownQueues_of_numbered (m := ⟨"rqg", "RequestGenerator", m.requestOutputs⟩) rfl
  rw [requestConnections_eq, DaqModule.ownQueues_append, routes]
  rfl

theorem ownQueues_dataHandler (i : Nat) :
    (dataHandler i).ownQueues = [numbered "snb_link_" i] := by
  have own := numbered_notMem_sharedQueues "snb_link_" i
  simp_all [dataHandler, handlerConnections, DaqModule.ownQueues, DaqModule.outputs,
    Connection.input, Connection.output, sharedQueues]

theorem ownQueues_recorder (i : Nat) : (recorder i).ownQueues = [] := rfl

/-- Apart from the shared queues every queue is written once at most. -/
theorem written_unshared (m : MiniDaq) :
    (m.plan.topology.writtenQueues.filter (· ∉ sharedQueues)).Perm
      (roster ["trigger_decision_q", "trigger_decision_copy_for_bookkeeping", "trigger_record_q",
        "token_q"] m.queueFamilies) := by
  have modules : m.plan.topology.modules = m.plan.modules := rfl
  have trigger : (DaqModule.mk "tde" "TriggerDecisionEmulator" triggerConnections).ownQueues =
    ["trigger_decision_q"] := by decide
  have fragment : (DaqModule.mk "ffr" "FragmentReceiver" fragmentConnections).ownQueues =
    ["trigger_record_q"] := by decide
  have writer : (DaqModule.mk "datawriter" "DataWriter" writerConnections).ownQueues =
    ["token_q"] := by decide
  have source : (DaqModule.mk "fake_source" "FakeCardReader" m.sourceConnections).ownQueues =
    m.indices.map (numbered "wib_fake_link_") := DaqModule.ownQueues_of_numbered rfl
  have recorders : m.indices.flatMap (fun i => (recorder i).ownQueues) = [] :=
    List.flatMap_eq_nil_iff.mpr fun i _ => ownQueues_recorder i
  rw [Topology.filter_writtenQueues, modules, plan_modules]
  simp only [List.flatMap_append, List.flatMap_cons, List.flatMap_nil, List.flatMap_map, trigger,
    ownQueues_request, fragment, writer, source, ownQueues_dataHandler, recorders, roster,
    queueFamilies, ← List.map_eq_flatMap, List.append_nil, List.nil_append, List.cons_append]
  refine .cons _ (.cons _ ?_)
  exact List.perm_middle.trans (.cons _ List.perm_middle)

theorem plan_wired (m : MiniDaq) : m.plan.topology.Wired := by
  refine Plan.wired sharedQueues ?_ ?_ m.connected m.single_notMem_sharedQueues ?_
  · rw [queueNames_eq]
    exact m.distinct_queues.nodup_roster
  · change m.plan.topology.moduleNames.Nodup
    rw [moduleNames_eq]
    exact m.distinct_modules.nodup_roster
  · refine m.written_unshared.symm.nodup (Text.Distinct.nodup_roster ?_)
    exact { m.distinct_queues with
      singles_nodup := by decide
      singles_stem := by decide }

end ReadoutControl.MiniDaq
