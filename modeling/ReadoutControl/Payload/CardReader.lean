import ReadoutControl.Json.Record

set_option autoImplicit false

/-!
Configuration of the card reader that replays raw frames.
-/

namespace ReadoutControl

open Json.Node

/-- The rate at which trigger primitives are replayed. The integer `0` switches the replay off;
every other number is a rate, also a zero with a point. -/
inductive TpRate where
  | disabled
  | khz (rate : Binary64)
  deriving DecidableEq

namespace TpRate

def toJson : TpRate → Json
  | disabled => .int 0
  | khz rate => .ofBinary64 rate

def read? : Json.Node → Option TpRate
  | .int 0 => some .disabled
  | node => node.float?.map .khz

end TpRate

structure CardReaderConf where
  linkIds : List UInt32
  inputLimit : UInt64
  rateKhz : Binary64
  rawType : String
  dataFile : String
  queueTimeoutMs : UInt64
  setT0To : Option Int64
  /-- The reader expects the words `true` and `false`. -/
  tpEnabled : Option String
  tpRate : Option TpRate
  tpDataFile : Option String
  deriving DecidableEq

namespace CardReaderConf

def optionalNames : List String := ["set_t0_to", "tp_enabled", "tp_rate_khz", "tp_data_filename"]

def names : List String :=
  ["link_ids", "input_limit", "rate_khz", "raw_type", "data_filename", "queue_timeout_ms"] ++
    optionalNames

def toJson (c : CardReaderConf) : Json :=
  .obj ([
    ("link_ids", .arr (c.linkIds.map fun n => .ofNat n.toNat)),
    ("input_limit", .ofNat c.inputLimit.toNat),
    ("rate_khz", .ofBinary64 c.rateKhz),
    ("raw_type", .str c.rawType),
    ("data_filename", .str c.dataFile),
    ("queue_timeout_ms", .ofNat c.queueTimeoutMs.toNat)] ++
    Json.optionalField "set_t0_to" (c.setT0To.map fun n => .int n.toInt) ++
    Json.optionalField "tp_enabled" (c.tpEnabled.map .str) ++
    Json.optionalField "tp_rate_khz" (c.tpRate.map TpRate.toJson) ++
    Json.optionalField "tp_data_filename" (c.tpDataFile.map .str))

def read? (node : Json.Node) : Option CardReaderConf := do
  let record ← node.record? names optionalNames
  return {
    linkIds := ← required? record "link_ids" (list? uint32?)
    inputLimit := ← required? record "input_limit" uint64?
    rateKhz := ← required? record "rate_khz" float?
    rawType := ← required? record "raw_type" text?
    dataFile := ← required? record "data_filename" text?
    queueTimeoutMs := ← required? record "queue_timeout_ms" uint64?
    setT0To := ← optional? record "set_t0_to" int64?
    tpEnabled := ← optional? record "tp_enabled" text?
    tpRate := ← optional? record "tp_rate_khz" TpRate.read?
    tpDataFile := ← optional? record "tp_data_filename" text? }

end CardReaderConf

end ReadoutControl
