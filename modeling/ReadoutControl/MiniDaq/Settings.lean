import ReadoutControl.Application.Clock
import ReadoutControl.Json.Record

set_option autoImplicit false

/-!
What a user chooses for the mini DAQ: emulated triggers drive data requests to the readout, and
fragments are built into trigger records and written out.
-/

namespace ReadoutControl

open Json.Node

structure MiniDaq where
  dataLinks : UInt32
  emulatorMode : Bool
  slowdown : Binary64
  run : UInt64
  /-- Triggers per second of wall-clock time. -/
  triggerRateHz : Binary64
  dataFile : String
  outputDirectory : String
  disableStorage : Bool
  /-- Positive for tokens held by the trigger emulator, negative for tokens held by the writer. -/
  tokenCount : Int64
  recordingDirectory : String
  /-- The seconds of a recording, if one is commanded. -/
  recordSeconds : Option UInt32
  deriving DecidableEq

namespace MiniDaq

def standard : MiniDaq where
  dataLinks := 2
  emulatorMode := false
  slowdown := .ofNat 10
  run := 333
  triggerRateHz := .ofNat 1
  dataFile := "./frames.bin"
  outputDirectory := "."
  disableStorage := false
  tokenCount := 10
  recordingDirectory := "/mnt/micron1"
  recordSeconds := none

def defaultFile : String := "minidaq-app-fake-readout.json"

def clock (m : MiniDaq) : Clock := .ofSlowdown m.slowdown

def triggerInterval (m : MiniDaq) : Int64 := m.clock.triggerInterval m.triggerRateHz

/-- The numbers of the data links. -/
def indices (m : MiniDaq) : List Nat := List.range m.dataLinks.toNat

def names : List String :=
  ["data_producers", "emulator_mode", "data_rate_slowdown_factor", "run_number",
    "trigger_rate_hz", "data_file", "output_path", "disable_data_storage", "token_count",
    "recording_dir", "record_duration_s"]

def toJson (m : MiniDaq) : Json :=
  .obj ([
    ("data_producers", .ofNat m.dataLinks.toNat),
    ("emulator_mode", .bool m.emulatorMode),
    ("data_rate_slowdown_factor", .ofBinary64 m.slowdown),
    ("run_number", .ofNat m.run.toNat),
    ("trigger_rate_hz", .ofBinary64 m.triggerRateHz),
    ("data_file", .str m.dataFile),
    ("output_path", .str m.outputDirectory),
    ("disable_data_storage", .bool m.disableStorage),
    ("token_count", .int m.tokenCount.toInt),
    ("recording_dir", .str m.recordingDirectory)] ++
    Json.optionalField "record_duration_s" (m.recordSeconds.map fun n => .ofNat n.toNat))

def read? (node : Json.Node) : Option MiniDaq := do
  let record ← node.record? names ["record_duration_s"]
  return {
    dataLinks := ← required? record "data_producers" uint32?
    emulatorMode := ← required? record "emulator_mode" bool?
    slowdown := ← required? record "data_rate_slowdown_factor" float?
    run := ← required? record "run_number" uint64?
    triggerRateHz := ← required? record "trigger_rate_hz" float?
    dataFile := ← required? record "data_file" text?
    outputDirectory := ← required? record "output_path" text?
    disableStorage := ← required? record "disable_data_storage" bool?
    tokenCount := ← required? record "token_count" int64?
    recordingDirectory := ← required? record "recording_dir" text?
    recordSeconds := ← optional? record "record_duration_s" uint32? }

end MiniDaq

end ReadoutControl
