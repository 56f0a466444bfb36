import ReadoutControl.Json.Record

set_option autoImplicit false

/-!
Configuration of the modules that serve one data link each: the handler and the recorder.
-/

namespace ReadoutControl

open Json.Node

structure LinkHandlerConf where
  rawType : String
  emulatorMode : Option Bool
  sourceQueueTimeoutMs : UInt64
  fakeTriggerFlag : UInt32
  latencyBufferSize : Binary64
  popLimit : Binary64
  popSize : Binary64
  apaNumber : UInt32
  linkNumber : UInt32
  softwareTpg : Option Bool
  deriving DecidableEq

namespace LinkHandlerConf

def names : List String :=
  ["raw_type", "emulator_mode", "source_queue_timeout_ms", "fake_trigger_flag",
    "latency_buffer_size", "pop_limit_pct", "pop_size_pct", "apa_number", "link_number",
    "enable_software_tpg"]

def optionalNames : List String := ["emulator_mode", "enable_software_tpg"]

def toJson (c : LinkHandlerConf) : Json :=
  .obj ([("raw_type", .str c.rawType)] ++
    Json.optionalField "emulator_mode" (c.emulatorMode.map .bool) ++ [
    ("source_queue_timeout_ms", .ofNat c.sourceQueueTimeoutMs.toNat),
    ("fake_trigger_flag", .ofNat c.fakeTriggerFlag.toNat),
    ("latency_buffer_size", .ofBinary64 c.latencyBufferSize),
    ("pop_limit_pct", .ofBinary64 c.popLimit),
    ("pop_size_pct", .ofBinary64 c.popSize),
    ("apa_number", .ofNat c.apaNumber.toNat),
    ("link_number", .ofNat c.linkNumber.toNat)] ++
    Json.optionalField "enable_software_tpg" (c.softwareTpg.map .bool))

def read? (node : Json.Node) : Option LinkHandlerConf := do
  let record ← node.record? names optionalNames
  return {
    rawType := ← required? record "raw_type" text?
    emulatorMode := ← optional? record "emulator_mode" bool?
    sourceQueueTimeoutMs := ← required? record "source_queue_timeout_ms" uint64?
    fakeTriggerFlag := ← required? record "fake_trigger_flag" uint32?
    latencyBufferSize := ← required? record "latency_buffer_size" float?
    popLimit := ← required? record "pop_limit_pct" float?
    popSize := ← required? record "pop_size_pct" float?
    apaNumber := ← required? record "apa_number" uint32?
    linkNumber := ← required? record "link_number" uint32?
    softwareTpg := ← optional? record "enable_software_tpg" bool? }

end LinkHandlerConf

structure RecorderConf where
  outputFile : String
  compression : String
  streamBufferSize : UInt64
  deriving DecidableEq

namespace RecorderConf

def toJson (c : RecorderConf) : Json :=
  .obj [("output_file", .str c.outputFile), ("compression_algorithm", .str c.compression),
    ("stream_buffer_size", .ofNat c.streamBufferSize.toNat)]

def read? (node : Json.Node) : Option RecorderConf := do
  let record ← node.record? ["output_file", "compression_algorithm", "stream_buffer_size"] []
  return {
    outputFile := ← required? record "output_file" text?
    compression := ← required? record "compression_algorithm" text?
    streamBufferSize := ← required? record "stream_buffer_size" uint64? }

end RecorderConf

end ReadoutControl
