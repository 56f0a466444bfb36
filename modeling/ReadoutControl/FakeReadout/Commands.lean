import ReadoutControl.Application.Progress
import ReadoutControl.Command.Family
import ReadoutControl.FakeReadout.Wiring
import ReadoutControl.Payload.CardReader
import ReadoutControl.Payload.LinkHandler
import ReadoutControl.Payload.Run

set_option autoImplicit false

/-!
The commands of the fake readout, and its generation against a registry of plugins.
-/

namespace ReadoutControl.FakeReadout

open Text (numbered)

def sourceConf (f : FakeReadout) : CardReaderConf where
  linkIds := (f.dataIndices ++ f.tpIndices).map UInt32.ofNat
  inputLimit := Dimensions.readerInput
  rateKhz := f.clock.rateKhz
  rawType := "wib"
  dataFile := f.dataFile
  queueTimeoutMs := Dimensions.queueWaitMs
  setT0To := some 0
  tpEnabled := some (if 0 < f.tpLinks then "true" else "false")
  tpRate := some (if 0 < f.tpLinks then .khz f.clock.rateKhz else .disabled)
  tpDataFile := some f.tpDataFile

def handlerConf (f : FakeReadout) (rawType : String) (link : Nat) (softwareTpg : Option Bool) :
    LinkHandlerConf where
  rawType := rawType
  emulatorMode := none
  sourceQueueTimeoutMs := Dimensions.queueWaitMs
  fakeTriggerFlag := 1
  latencyBufferSize := f.clock.latencyBufferSize
  popLimit := Dimensions.popLimit
  popSize := Dimensions.popSize
  apaNumber := 0
  linkNumber := .ofNat link
  softwareTpg := softwareTpg

def dataHandlerConf (f : FakeReadout) (i : Nat) : LinkHandlerConf :=
  f.handlerConf "wib" i (if f.softwareTpg then some true else none)

/-- Links made in software are numbered after all others. -/
def softwareLink (f : FakeReadout) (i : Nat) : Nat := f.dataLinks.toNat + f.tpLinks.toNat + i

def tpHandlerConf (f : FakeReadout) (i : Nat) : LinkHandlerConf :=
  f.handlerConf "raw_tp" (f.softwareLink i) none

def conf (f : FakeReadout) : Command :=
  .ofPayloads "conf" (
    .ofPayload (.exact "fake_source") f.sourceConf.toJson ::
    f.dataIndices.map (fun i =>
      .ofPayload (.exact (numbered "datahandler_" i)) (f.dataHandlerConf i).toJson) ++
    if f.softwareTpg then
      f.dataIndices.map fun i =>
        .ofPayload (.exact (numbered "tp_datahandler_" i)) (f.tpHandlerConf i).toJson
    else [])

def handlers (f : FakeReadout) : List Address :=
  .pattern .dataHandlers :: if f.softwareTpg then [.pattern .tpHandlers] else []

/-- The source starts last. -/
def start (f : FakeReadout) : Command :=
  .ofPayloads "start" ((f.handlers ++ [Address.exact "fake_source"]).map fun target =>
    .ofPayload target (RunStart.ofRun f.run).toJson)

/-- The source stops first. -/
def stop (f : FakeReadout) : Command :=
  .ofPayloads "stop" ((Address.exact "fake_source" :: f.handlers).map fun target =>
    .ofPayload target (NoParameters.toJson {}))

def scrap : Command := .ofPayloads "scrap" [.ofPayload .any (NoParameters.toJson {})]

def commands (f : FakeReadout) (t : Topology) : CommandSequence :=
  ⟨[.ofTopology t, f.conf, f.start, f.stop, scrap]⟩

/-- Whether the numbers of the links made in software are in range. -/
def softwareLinksFit (f : FakeReadout) : Bool :=
  !f.softwareTpg || f.dataIndices.all fun i => f.softwareLink i < UInt32.size

def generate (f : FakeReadout) (registry : Registry) : Except Fault CommandSequence := do
  let t ← f.topology registry
  if f.softwareLinksFit then
    (registry.checkSequence (f.commands t)).mapError .sequence
    return f.commands t
  else throw (.overflow .addition)

def startLine (f : FakeReadout) : LogLine :=
  let slowdown := f.slowdown.text .message
  ⟨.info, s!"Generating fake readout: {f.dataLinks} data links, {f.tpLinks} TP links, " ++
    s!"slowdown {slowdown}"⟩

/-- The lines logged while the commands are generated. -/
def log (f : FakeReadout) (registry : Registry) : List LogLine :=
  f.startLine :: match f.topology registry with
    | .error _ => []
    | .ok t => t.builtLine :: t.sizeLine :: match f.generate registry with
      | .error _ => []
      | .ok s => [s.idsLine]

end ReadoutControl.FakeReadout
