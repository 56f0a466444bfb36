import ReadoutControl.Application.Progress
import ReadoutControl.Application.Tokens
import ReadoutControl.Command.Family
import ReadoutControl.MiniDaq.Wiring
import ReadoutControl.Payload.CardReader
import ReadoutControl.Payload.LinkHandler
import ReadoutControl.Payload.Run
import ReadoutControl.Payload.Storage
import ReadoutControl.Payload.Trigger

set_option autoImplicit false

/-!
The commands of the mini DAQ, and its generation against a registry of plugins.
-/

namespace ReadoutControl.MiniDaq

open Text (numbered)

def readoutWindow : UInt64 := 1200

def triggerWindowOffset : UInt64 := 1000

def maxFileSize : UInt64 := 1073741824

def recorderStreamBuffer : UInt64 := 8388608

def triggerConf (m : MiniDaq) (tokens : Int64) : TriggerConf where
  links := m.indices.map UInt32.ofNat
  minLinks := m.dataLinks
  maxLinks := m.dataLinks
  minWindow := readoutWindow
  maxWindow := readoutWindow
  windowOffset := triggerWindowOffset
  triggerDelay := m.clock.triggerDelay
  triggerInterval := m.triggerInterval
  clockFrequency := m.clock.frequencyHz
  initialTokens := tokens

def requestConf (m : MiniDaq) : RequestConf where
  routes := m.indices.map fun i => ⟨0, .ofNat i, numbered "data_requests_" i⟩

def fragmentConf : FragmentConf := ⟨Dimensions.queueWaitMs⟩

def writerConf (m : MiniDaq) (tokens : Int64) : DataWriterConf where
  initialTokens := tokens
  store := {
    name := "data_store"
    kind := "HDF5DataStore"
    directory := m.outputDirectory
    mode := "all-per-file"
    maxFileSize := maxFileSize
    naming := ⟨"swtest", 6, "", 4⟩
    layout := ⟨"TriggerRecord", 5, 3, 2⟩ }

def sourceConf (m : MiniDaq) : CardReaderConf where
  linkIds := m.indices.map UInt32.ofNat
  inputLimit := Dimensions.readerInput
  rateKhz := m.clock.rateKhz
  rawType := "wib"
  dataFile := m.dataFile
  queueTimeoutMs := Dimensions.queueWaitMs
  setT0To := none
  tpEnabled := none
  tpRate := none
  tpDataFile := none

def handlerConf (m : MiniDaq) (i : Nat) : LinkHandlerConf where
  rawType := "wib"
  emulatorMode := some m.emulatorMode
  sourceQueueTimeoutMs := Dimensions.queueWaitMs
  fakeTriggerFlag := 0
  latencyBufferSize := m.clock.latencyBufferSize
  popLimit := Dimensions.popLimit
  popSize := Dimensions.popSize
  apaNumber := 0
  linkNumber := .ofNat i
  softwareTpg := none

/-- A directory without the slashes at its end. -/
def trimSlashes (directory : String) : String :=
  String.ofList (directory.toList.reverse.dropWhile (· = '/')).reverse

def recordingFile (m : MiniDaq) (i : Nat) : String :=
  trimSlashes m.recordingDirectory ++ "/" ++ numbered "output_" i ++ ".out"

def recorderConf (m : MiniDaq) (i : Nat) : RecorderConf where
  outputFile := m.recordingFile i
  compression := "None"
  streamBufferSize := recorderStreamBuffer

def conf (m : MiniDaq) (tokens : TokenSplit) : Command :=
  (Command.ofPayloads "conf" ([
      .ofPayload (.exact "tde") (m.triggerConf tokens.triggerEmulator).toJson,
      .ofPayload (.exact "rqg") m.requestConf.toJson,
      .ofPayload (.exact "ffr") fragmentConf.toJson,
      .ofPayload (.exact "datawriter") (m.writerConf tokens.dataWriter).toJson,
      .ofPayload (.exact "fake_source") m.sourceConf.toJson] ++
    m.indices.map (fun i =>
      .ofPayload (.exact (numbered "datahandler_" i)) (m.handlerConf i).toJson) ++
    m.indices.map fun i =>
      .ofPayload (.exact (numbered "data_recorder_" i)) (m.recorderConf i).toJson)
  ).withStates .initial .configured

def startParameters (m : MiniDaq) : RunStart :=
  ⟨m.run, some m.triggerInterval, some m.disableStorage⟩

/-- Downstream modules start first. -/
def startOrder : List Address :=
  [.exact "datawriter", .exact "ffr", .pattern .dataHandlers, .pattern .recorders,
    .exact "fake_source", .exact "rqg", .exact "tde"]

def start (m : MiniDaq) : Command :=
  (Command.ofPayloads "start" (startOrder.map fun target =>
    .ofPayload target m.startParameters.toJson)).withStates .configured .running

/-- Upstream modules stop first, so that data on its way is drained. -/
def stopOrder : List Address :=
  [.exact "tde", .exact "rqg", .exact "fake_source", .pattern .dataHandlers, .exact "ffr",
    .exact "datawriter", .pattern .recorders]

def stop : Command :=
  (Command.ofPayloads "stop" (stopOrder.map .ofTarget)).withStates .running .configured

def pause : Command :=
  (Command.ofPayloads "pause" [.ofTarget .any]).withStates .running .running

def resume (m : MiniDaq) : Command :=
  (Command.ofPayloads "resume"
    [.ofPayload (.exact "tde") (TriggerResume.toJson ⟨m.triggerInterval⟩)]
  ).withStates .running .running

def record (seconds : UInt32) : Command :=
  (Command.ofPayloads "record"
    [.ofPayload (.pattern .dataHandlers) (Recording.toJson ⟨seconds⟩)]
  ).withStates .running .running

def scrap : Command :=
  (Command.ofPayloads "scrap" [.ofTarget .any]).withStates .configured .initial

def commands (m : MiniDaq) (tokens : TokenSplit) (t : Topology) : CommandSequence :=
  ⟨[(Command.ofTopology t).withStates .none .initial, m.conf tokens, m.start, stop, pause,
      m.resume] ++ (m.recordSeconds.map record).toList ++ [scrap]⟩

def generate (m : MiniDaq) (registry : Registry) : Except Fault CommandSequence := do
  let t ← (m.topology registry).mapError .topology
  match TokenSplit.ofCount? m.tokenCount with
  | none => throw (.overflow .negation)
  | some tokens =>
    (registry.checkSequence (m.commands tokens t)).mapError .sequence
    return m.commands tokens t

def startLine (m : MiniDaq) : LogLine :=
  let slowdown := m.slowdown.text .message
  let rate := m.triggerRateHz.text .message
  ⟨.info, s!"Generating mini DAQ: {m.dataLinks} links, slowdown {slowdown}, " ++
    s!"trigger rate {rate} Hz, run {m.run}"⟩

/-- The lines logged while the commands are generated. -/
def log (m : MiniDaq) (registry : Registry) : List LogLine :=
  m.startLine :: match m.topology registry with
    | .error _ => []
    | .ok t => t.builtLine :: t.sizeLine :: match m.generate registry with
      | .error _ => []
      | .ok s => [s.idsLine]

end ReadoutControl.MiniDaq
