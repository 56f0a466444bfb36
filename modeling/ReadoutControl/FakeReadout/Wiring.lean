import ReadoutControl.Application.Dimensions
import ReadoutControl.Application.Fault
import ReadoutControl.FakeReadout.Settings
import ReadoutControl.Text.Numbered
import ReadoutControl.Topology.Plan

set_option autoImplicit false

/-!
The queues and modules of the fake readout.
-/

namespace ReadoutControl.FakeReadout

open Text (numbered)

def requestQueueDepth : UInt64 := 1000

/-- The queues that every fake readout has. -/
def addQueues (f : FakeReadout) (p : Plan) : Plan :=
  p |>.addQueue "time_sync_q" .mpmc Dimensions.sharedQueue
    |>.addQueue "data_fragments_q" .mpmc Dimensions.sharedQueue
    |>.addQueues f.dataIndices .spsc requestQueueDepth (numbered "data_requests_")
    |>.addQueues f.dataIndices .spsc Dimensions.linkQueue (numbered "wib_fake_link_")
    |>.addQueues f.tpIndices .spsc Dimensions.linkQueue (numbered "tp_fake_link_")

/-- The queues of trigger primitives that are made in software. -/
def addSoftwareQueues (f : FakeReadout) (p : Plan) : Plan :=
  p |>.addQueues f.dataIndices .spsc Dimensions.linkQueue (numbered "sw_tp_link_")
    |>.addQueues f.dataIndices .spsc requestQueueDepth (numbered "tp_requests_")

/-- The source writes to the data links first, then to those with trigger primitives. -/
def sourceOutputs (f : FakeReadout) : List Connection :=
  f.dataIndices.map (fun i =>
    .output (numbered "output_" i) (numbered "wib_fake_link_" i)) ++
  f.tpIndices.map fun i =>
    .output (numbered "tp_output_" i) (numbered "tp_fake_link_" i)

def handlerConnections (raw requests : String) : List Connection :=
  [.input "raw_input" raw, .output "timesync" "time_sync_q", .input "requests" requests,
    .output "fragments" "data_fragments_q"]

def dataHandlerConnections (f : FakeReadout) (i : Nat) : List Connection :=
  handlerConnections (numbered "wib_fake_link_" i) (numbered "data_requests_" i) ++
    if f.softwareTpg then [.output "tp_out" (numbered "sw_tp_link_" i)] else []

def tpHandlerConnections (i : Nat) : List Connection :=
  handlerConnections (numbered "sw_tp_link_" i) (numbered "tp_requests_" i)

def plan (f : FakeReadout) : Plan :=
  let queues := f.addQueues .empty
  let queues := if f.softwareTpg then f.addSoftwareQueues queues else queues
  let modules := queues
    |>.addModule "fake_source" "FakeCardReader" f.sourceOutputs
    |>.addModules f.dataIndices "DataLinkHandler" (numbered "datahandler_")
      f.dataHandlerConnections
  if f.softwareTpg then
    modules.addModules f.dataIndices "DataLinkHandler" (numbered "tp_datahandler_")
      tpHandlerConnections
  else modules

/-- The topology, if all link numbers are in range. -/
def topology (f : FakeReadout) (registry : Registry) : Except Fault Topology :=
  if f.dataLinks.toNat + f.tpLinks.toNat < UInt32.size then
    (f.plan.build registry).mapError .topology
  else .error (.overflow .addition)

end ReadoutControl.FakeReadout
