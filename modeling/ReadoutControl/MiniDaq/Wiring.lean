import ReadoutControl.Application.Dimensions
import ReadoutControl.Application.Fault
import ReadoutControl.MiniDaq.Settings
import ReadoutControl.Text.Numbered
import ReadoutControl.Topology.Plan

set_option autoImplicit false

/-!
The queues and modules of the mini DAQ.
-/

namespace ReadoutControl.MiniDaq

open Text (numbered)

/-- Dataflow queues hold a handful of decisions. -/
def dataflowQueueDepth : UInt64 := 20

def addQueues (m : MiniDaq) (p : Plan) : Plan :=
  p |>.addQueue "time_sync_q" .mpmc Dimensions.sharedQueue
    |>.addQueue "token_q" .spsc dataflowQueueDepth
    |>.addQueue "trigger_decision_q" .spsc dataflowQueueDepth
    |>.addQueue "trigger_decision_copy_for_bookkeeping" .spsc dataflowQueueDepth
    |>.addQueue "trigger_record_q" .spsc dataflowQueueDepth
    |>.addQueue "data_fragments_q" .mpmc Dimensions.sharedQueue
    |>.addQueues m.indices .spsc dataflowQueueDepth (numbered "data_requests_")
    |>.addQueues m.indices .spsc Dimensions.linkQueue (numbered "wib_fake_link_")
    |>.addQueues m.indices .spsc Dimensions.linkQueue (numbered "snb_link_")

def triggerConnections : List Connection :=
  [.input "time_sync_source" "time_sync_q", .input "token_source" "token_q",
    .output "trigger_decision_sink" "trigger_decision_q"]

def requestConnections (m : MiniDaq) : List Connection :=
  .input "trigger_decision_input_queue" "trigger_decision_q" ::
  .output "trigger_decision_for_event_building" "trigger_decision_copy_for_bookkeeping" ::
  m.indices.map fun i =>
    .output (numbered "data_request_" i ++ "_output_queue") (numbered "data_requests_" i)

def fragmentConnections : List Connection :=
  [.input "trigger_decision_input_queue" "trigger_decision_copy_for_bookkeeping",
    .output "trigger_record_output_queue" "trigger_record_q",
    .input "data_fragment_input_queue" "data_fragments_q"]

def writerConnections : List Connection :=
  [.input "trigger_record_input_queue" "trigger_record_q", .output "token_output_queue" "token_q"]

def sourceConnections (m : MiniDaq) : List Connection :=
  m.indices.map fun i => .output (numbered "output_" i) (numbered "wib_fake_link_" i)

def handlerConnections (i : Nat) : List Connection :=
  [.input "raw_input" (numbered "wib_fake_link_" i), .output "timesync" "time_sync_q",
    .input "requests" (numbered "data_requests_" i), .output "fragments" "data_fragments_q",
    .output "snb" (numbered "snb_link_" i)]

def recorderConnections (i : Nat) : List Connection := [.input "snb" (numbered "snb_link_" i)]

def addModules (m : MiniDaq) (p : Plan) : Plan :=
  p |>.addModule "tde" "TriggerDecisionEmulator" triggerConnections
    |>.addModule "rqg" "RequestGenerator" m.requestConnections
    |>.addModule "ffr" "FragmentReceiver" fragmentConnections
    |>.addModule "datawriter" "DataWriter" writerConnections
    |>.addModule "fake_source" "FakeCardReader" m.sourceConnections
    |>.addModules m.indices "DataLinkHandler" (numbered "datahandler_") handlerConnections
    |>.addModules m.indices "DataRecorder" (numbered "data_recorder_") recorderConnections

def plan (m : MiniDaq) : Plan := m.addModules (m.addQueues .empty)

def topology (m : MiniDaq) (registry : Registry) : Except TopologyError Topology :=
  m.plan.build registry

end ReadoutControl.MiniDaq
