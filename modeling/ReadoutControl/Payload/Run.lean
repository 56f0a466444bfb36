import ReadoutControl.Json.Record

set_option autoImplicit false

/-!
Parameters of the commands that steer a run.
-/

namespace ReadoutControl

open Json.Node

/-- Parameters without content. -/
structure NoParameters where
  deriving DecidableEq

namespace NoParameters

def toJson (_ : NoParameters) : Json := .obj []

def read? (node : Json.Node) : Option NoParameters := do
  let _ ← node.record? [] []
  return {}

end NoParameters

/-- Parameters of `start`. -/
structure RunStart where
  run : UInt64
  triggerInterval : Option Int64
  disableStorage : Option Bool
  deriving DecidableEq

namespace RunStart

def ofRun (run : UInt64) : RunStart := ⟨run, none, none⟩

def toJson (s : RunStart) : Json :=
  .obj ([("run", .ofNat s.run.toNat)] ++
    Json.optionalField "trigger_interval_ticks" (s.triggerInterval.map fun n => .int n.toInt) ++
    Json.optionalField "disable_data_storage" (s.disableStorage.map .bool))

def read? (node : Json.Node) : Option RunStart := do
  let record ← node.record? ["run", "trigger_interval_ticks", "disable_data_storage"]
    ["trigger_interval_ticks", "disable_data_storage"]
  return {
    run := ← required? record "run" uint64?
    triggerInterval := ← optional? record "trigger_interval_ticks" int64?
    disableStorage := ← optional? record "disable_data_storage" bool? }

end RunStart

/-- Parameters of `record`: the duration of the recording in seconds. -/
structure Recording where
  duration : UInt32
  deriving DecidableEq

namespace Recording

def toJson (r : Recording) : Json := .obj [("duration", .ofNat r.duration.toNat)]

def read? (node : Json.Node) : Option Recording := do
  let record ← node.record? ["duration"] []
  return { duration := ← required? record "duration" uint32? }

end Recording

/-- Parameters of `resume` for the trigger emulator. -/
structure TriggerResume where
  triggerInterval : Int64
  deriving DecidableEq

namespace TriggerResume

def toJson (r : TriggerResume) : Json :=
  .obj [("trigger_interval_ticks", .int r.triggerInterval.toInt)]

def read? (node : Json.Node) : Option TriggerResume := do
  let record ← node.record? ["trigger_interval_ticks"] []
  return { triggerInterval := ← required? record "trigger_interval_ticks" int64? }

end TriggerResume

end ReadoutControl
