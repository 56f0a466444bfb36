import ReadoutControl.Proofs.Application.Parameters
import ReadoutControl.Proofs.Command.Within
import ReadoutControl.Proofs.Document.Rate
import ReadoutControl.Proofs.Payload.Rates

set_option autoImplicit false

/-!
The typed parts of documents, with the fields of those that are records. What is written for a part
that was read has no value where none was given, and a floating-point number where an integer stood
for it.
-/

namespace ReadoutControl

open Json Json.Node

/-- The fields of a record in declared order. Some are left out of a text if they have no value,
some are null then, and some hold a floating-point number or a replay rate. -/
structure Fields where
  names : List String := []
  omitted : List String := []
  nulled : List String := []
  numbers : List String := []
  rates : List String := []

namespace Fields

@[simps]
def runStart : Fields where
  names := ["run", "trigger_interval_ticks", "disable_data_storage"]
  omitted := ["trigger_interval_ticks", "disable_data_storage"]

@[simps]
def cardReader : Fields where
  names := CardReaderConf.names
  omitted := CardReaderConf.optionalNames
  numbers := ["rate_khz"]
  rates := ["tp_rate_khz"]

@[simps]
def linkHandler : Fields where
  names := LinkHandlerConf.names
  omitted := LinkHandlerConf.optionalNames
  numbers := ["latency_buffer_size", "pop_limit_pct", "pop_size_pct"]

@[simps]
def trigger : Fields where
  names := TriggerConf.names
  numbers := ["clock_frequency_hz"]

@[simps]
def addressed : Fields where
  names := ["match", "data"]
  nulled := ["data"]

@[simps]
def command : Fields where
  names := ["id", "entry_state", "exit_state", "data"]
  omitted := ["entry_state", "exit_state"]

@[simps]
def fakeReadout : Fields where
  names := FakeReadout.names
  numbers := ["data_rate_slowdown_factor"]

@[simps]
def miniDaq : Fields where
  names := MiniDaq.names
  omitted := ["record_duration_s"]
  numbers := ["data_rate_slowdown_factor", "trigger_rate_hz"]

end Fields

/-- A typed part of documents, by how it is read and written. -/
inductive Part : {α : Type} → Fields → (Node → Option α) → (α → Json) → Prop
  | noParameters : Part {} NoParameters.read? NoParameters.toJson
  | runStart : Part .runStart RunStart.read? RunStart.toJson
  | recording : Part { names := ["duration"] } Recording.read? Recording.toJson
  | triggerResume :
    Part { names := ["trigger_interval_ticks"] } TriggerResume.read? TriggerResume.toJson
  | tpRate : Part {} TpRate.read? TpRate.toJson
  | cardReader : Part .cardReader CardReaderConf.read? CardReaderConf.toJson
  | linkHandler : Part .linkHandler LinkHandlerConf.read? LinkHandlerConf.toJson
  | recorder : Part { names := ["output_file", "compression_algorithm", "stream_buffer_size"] }
      RecorderConf.read? RecorderConf.toJson
  | trigger : Part .trigger TriggerConf.read? TriggerConf.toJson
  | requestRoute :
    Part { names := ["apa", "link", "queueinstance"] } RequestRoute.read? RequestRoute.toJson
  | request : Part { names := ["map"] } RequestConf.read? RequestConf.toJson
  | fragments :
    Part { names := ["general_queue_timeout"] } FragmentConf.read? FragmentConf.toJson
  | fileNaming : Part
      { names := ["overall_prefix", "digits_for_run_number", "file_index_prefix",
          "digits_for_file_index"] }
      FileNaming.read? FileNaming.toJson
  | fileLayout : Part
      { names := ["trigger_record_name_prefix", "digits_for_trigger_number",
          "digits_for_apa_number", "digits_for_link_number"] }
      FileLayout.read? FileLayout.toJson
  | dataStore : Part
      { names := ["name", "type", "directory_path", "mode", "max_file_size_bytes",
          "filename_parameters", "file_layout_parameters"] }
      DataStoreConf.read? DataStoreConf.toJson
  | writer : Part { names := ["initial_token_count", "data_store_parameters"] }
      DataWriterConf.read? DataWriterConf.toJson
  | queue : Part { names := ["inst", "kind", "capacity"] } Queue.read? Queue.toJson
  | connection : Part { names := ["name", "inst", "dir"] } Connection.read? Connection.toJson
  | daqModule : Part { names := ["inst", "plugin", "data"] } DaqModule.read? DaqModule.toJson
  | topology : Part { names := ["queues", "modules"] } Topology.read? Topology.toJson
  | address : Part {} Address.read? Address.toJson
  | addressed : Part .addressed Addressed.read? Addressed.toJson
  | command : Part .command Command.read? Command.toJson
  | fakeReadout : Part .fakeReadout FakeReadout.read? FakeReadout.toJson
  | miniDaq : Part .miniDaq MiniDaq.read? MiniDaq.toJson

/-- Whether a field is absent or null. -/
def Unset (value : Option Node) : Prop := value = none ∨ value = some .null

/-- The fields of a record as they are found again in what is written for it. -/
structure Fields.Kept (fields : Fields) (record : List (String × Node)) (v : Json) : Prop where
  omitted : ∀ name ∈ fields.omitted, Unset (record.lookup name) → v.field? name = none
  nulled : ∀ name ∈ fields.nulled, Unset (record.lookup name) → v.field? name = some .null
  numbers : ∀ name ∈ fields.numbers, ∀ node, record.lookup name = some node →
    v.field? name = node.floatForm?
  rates : ∀ name ∈ fields.rates, ∀ node, record.lookup name = some node → node ≠ .null →
    v.field? name = node.rateForm?

section Values

variable {record : List (String × Node)} {name : String} {v : Json}

theorem eq_none_of_unset {α : Type} {read : Node → Option α} {value : Option α}
    (given : optional? record name read = some value) (unset : Unset (record.lookup name)) :
    value = none := by
  unfold optional? at given
  rcases unset with absent | null
  · rw [absent] at given
    exact (Option.some.inj given).symm
  · rw [null] at given
    exact (Option.some.inj given).symm

/-- A field without a value is left out. -/
theorem field?_of_unset {α : Type} {read : Node → Option α} {write : α → Json} {value : Option α}
    (given : optional? record name read = some value) (written : v.field? name = value.map write)
    (unset : Unset (record.lookup name)) : v.field? name = none := by
  rw [written, eq_none_of_unset given unset, Option.map_none]

variable {below : Nat} (each : ∀ field ∈ record, field.2.Within below)

include each

theorem field?_of_number {x : Binary64} (given : required? record name float? = some x)
    (written : v.field? name = some (ofBinary64 x)) :
    ∀ node, record.lookup name = some node → v.field? name = node.floatForm? := by
  intro node found
  rw [required?, found, Option.bind_some] at given
  rw [written, floatForm?_of_read? (Within.lookup each found) given]

theorem field?_of_rate {rate : Option TpRate}
    (given : optional? record name TpRate.read? = some rate)
    (written : v.field? name = rate.map TpRate.toJson) :
    ∀ node, record.lookup name = some node → node ≠ .null → v.field? name = node.rateForm? := by
  intro node found filled
  rw [optional?_eq_some_iff, found] at given
  cases given with
  | null => exact absurd rfl filled
  | value _ read => rw [written, TpRate.rateForm?_of_read? (Within.lookup each found) read]; rfl

theorem isFinite_of_number {x : Binary64} (given : required? record name float? = some x) :
    x.isFinite = true := by
  obtain ⟨node, found, read⟩ := required?_eq_some_iff.mp given
  exact (Within.lookup each found).float? read

end Values

end ReadoutControl
