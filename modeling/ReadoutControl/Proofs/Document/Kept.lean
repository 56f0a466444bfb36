import ReadoutControl.Proofs.Document.Part

set_option autoImplicit false

/-!
Records that are read keep their fields. What is given is found in what is written for them, numbers
in the form of a floating-point number, and what is not given is left out or null.
-/

namespace ReadoutControl

open Json Json.Node

/-- An array gives the last field of a record that has no default, and so all fields. -/
theorem Json.Node.record?_of_last_required {names defaulted : List String} {last : String}
    (required : last ∉ defaulted) (node : Node) :
    node.record? (names ++ [last]) defaulted = node.record? (names ++ [last]) [] := by
  cases node with
  | arr items =>
    have early : ((names ++ [last]).drop items.length).all defaulted.contains =
        ((names ++ [last]).drop items.length).all ([] : List String).contains := by
      by_cases short : items.length ≤ names.length
      · simp [List.drop_append_of_le_length short, required]
      · have whole : (names ++ [last]).length ≤ items.length := by
          rw [List.length_append, List.length_singleton]
          omega
        simp [List.drop_eq_nil_of_le whole]
    simp only [record?, early]
  | _ => rfl

/-! What is written under a name is found by looking through the pieces of the record. -/

attribute [local simp] field? List.lookup_append lookup_optionalField lookup_cons

variable {node : Node} {depth : Nat}

theorem RunStart.fields_of_read? {s : RunStart} (read : read? node = some s) :
    ∃ record, node.record? Fields.runStart.names Fields.runStart.omitted = some record ∧
      optional? record "trigger_interval_ticks" int64? = some s.triggerInterval ∧
      optional? record "disable_data_storage" bool? = some s.disableStorage := by
  simp only [read?, Option.bind_eq_bind, Option.bind_eq_some_iff] at read
  obtain ⟨record, found, _, _, interval, ticked, storage, disabled, same⟩ := read
  obtain rfl := Option.some.inj same
  exact ⟨record, found, ticked, disabled⟩

theorem RunStart.kept {s : RunStart} (read : read? node = some s) :
    ∃ record, node.record? Fields.runStart.names Fields.runStart.omitted = some record ∧
      Fields.runStart.Kept record s.toJson := by
  obtain ⟨record, found, ticked, disabled⟩ := fields_of_read? read
  have interval : s.toJson.field? "trigger_interval_ticks" =
      s.triggerInterval.map fun n => .int n.toInt := by
    simp [toJson]
  have storage : s.toJson.field? "disable_data_storage" = s.disableStorage.map .bool := by
    simp [toJson]
  refine ⟨record, found, ?_, by simp, by simp, by simp⟩
  simpa using ⟨field?_of_unset ticked interval, field?_of_unset disabled storage⟩

theorem CardReaderConf.kept {c : CardReaderConf} (within : node.Within depth)
    (read : read? node = some c) :
    ∃ record, node.record? Fields.cardReader.names Fields.cardReader.omitted = some record ∧
      Fields.cardReader.Kept record c.toJson := by
  obtain ⟨record, found, rated, set, enabled, tpRated, filed⟩ := fields_of_read? read
  obtain ⟨below, rfl, each⟩ := within.record? found
  have setT0 : c.toJson.field? "set_t0_to" = c.setT0To.map fun n => .int n.toInt := by
    simp [toJson]
  have tpEnabled : c.toJson.field? "tp_enabled" = c.tpEnabled.map .str := by
    simp [toJson]
  have tpRate : c.toJson.field? "tp_rate_khz" = c.tpRate.map TpRate.toJson := by
    simp [toJson]
  have tpFile : c.toJson.field? "tp_data_filename" = c.tpDataFile.map .str := by
    simp [toJson]
  have rate : c.toJson.field? "rate_khz" = some (ofBinary64 c.rateKhz) := rfl
  refine ⟨record, found, ?_, by simp, ?_, ?_⟩
  · simpa [optionalNames] using ⟨field?_of_unset set setT0, field?_of_unset enabled tpEnabled,
      field?_of_unset tpRated tpRate, field?_of_unset filed tpFile⟩
  · simpa using field?_of_number each rated rate
  · simpa using field?_of_rate each tpRated tpRate

theorem LinkHandlerConf.kept {c : LinkHandlerConf} (within : node.Within depth)
    (read : read? node = some c) :
    ∃ record, node.record? Fields.linkHandler.names Fields.linkHandler.omitted = some record ∧
      Fields.linkHandler.Kept record c.toJson := by
  obtain ⟨record, found, emulated, latent, limited, sized, made⟩ := fields_of_read? read
  obtain ⟨below, rfl, each⟩ := within.record? found
  have emulator : c.toJson.field? "emulator_mode" = c.emulatorMode.map .bool := by
    simp [toJson]
  have software : c.toJson.field? "enable_software_tpg" = c.softwareTpg.map .bool := by
    simp [toJson]
  have latency : c.toJson.field? "latency_buffer_size" = some (ofBinary64 c.latencyBufferSize) := by
    simp [toJson]
  have limit : c.toJson.field? "pop_limit_pct" = some (ofBinary64 c.popLimit) := by
    simp [toJson]
  have size : c.toJson.field? "pop_size_pct" = some (ofBinary64 c.popSize) := by
    simp [toJson]
  refine ⟨record, found, ?_, by simp, ?_, by simp⟩
  · simpa [optionalNames] using ⟨field?_of_unset emulated emulator, field?_of_unset made software⟩
  · simpa using ⟨field?_of_number each latent latency, field?_of_number each limited limit,
      field?_of_number each sized size⟩

theorem TriggerConf.kept {c : TriggerConf} (within : node.Within depth)
    (read : read? node = some c) :
    ∃ record, node.record? Fields.trigger.names Fields.trigger.omitted = some record ∧
      Fields.trigger.Kept record c.toJson := by
  obtain ⟨record, found, counted⟩ := frequency_of_read? read
  obtain ⟨below, rfl, each⟩ := within.record? found
  have frequency : c.toJson.field? "clock_frequency_hz" = some (ofBinary64 c.clockFrequency) := rfl
  refine ⟨record, found, by simp, by simp, ?_, by simp⟩
  simpa using field?_of_number each counted frequency

theorem Addressed.kept {e : Addressed} (read : read? node = some e) :
    ∃ record, node.record? Fields.addressed.names Fields.addressed.omitted = some record ∧
      Fields.addressed.Kept record e.toJson := by
  obtain ⟨record, found, _, given⟩ := fields_of_read? read
  refine ⟨record, found, by simp, ?_, by simp, by simp⟩
  have payload : e.toJson.field? "data" = some (e.payload.getD .null) := rfl
  have absent (unset : Unset (record.lookup "data")) : e.toJson.field? "data" = some .null := by
    rw [payload, eq_none_of_unset given unset, Option.getD_none]
  simpa using absent

theorem Command.kept {c : Command} (read : read? node = some c) :
    ∃ record, node.record? Fields.command.names Fields.command.omitted = some record ∧
      Fields.command.Kept record c.toJson := by
  obtain ⟨record, found, entered, left, _⟩ := fields_of_read? read
  have entry : c.toJson.field? "entry_state" = c.entry.map fun s => .str s.name := by
    simp [toJson, stateField]
  have exit : c.toJson.field? "exit_state" = c.exit.map fun s => .str s.name := by
    simp [toJson, stateField]
  have required : "data" ∉ Fields.command.omitted := by decide
  have early : node.record? (["id", "entry_state", "exit_state"] ++ ["data"])
      Fields.command.omitted = some record := (record?_of_last_required required node).trans found
  refine ⟨record, early, ?_, by simp, by simp, by simp⟩
  · simpa using ⟨field?_of_unset entered entry, field?_of_unset left exit⟩

theorem FakeReadout.kept {f : FakeReadout} (within : node.Within depth)
    (read : read? node = some f) :
    ∃ record, node.record? Fields.fakeReadout.names Fields.fakeReadout.omitted = some record ∧
      Fields.fakeReadout.Kept record f.toJson := by
  obtain ⟨record, found, slowed⟩ := slowdown_of_read? read
  obtain ⟨below, rfl, each⟩ := within.record? found
  have slowdown : f.toJson.field? "data_rate_slowdown_factor" = some (ofBinary64 f.slowdown) := rfl
  refine ⟨record, found, by simp, by simp, ?_, by simp⟩
  simpa using field?_of_number each slowed slowdown

theorem MiniDaq.kept {m : MiniDaq} (within : node.Within depth) (read : read? node = some m) :
    ∃ record, node.record? Fields.miniDaq.names Fields.miniDaq.omitted = some record ∧
      Fields.miniDaq.Kept record m.toJson := by
  obtain ⟨record, found, slowed, rated, recorded⟩ := fields_of_read? read
  obtain ⟨below, rfl, each⟩ := within.record? found
  have slowdown : m.toJson.field? "data_rate_slowdown_factor" = some (ofBinary64 m.slowdown) := rfl
  have rate : m.toJson.field? "trigger_rate_hz" = some (ofBinary64 m.triggerRateHz) := rfl
  have seconds : m.toJson.field? "record_duration_s" =
      m.recordSeconds.map fun n => .ofNat n.toNat := by
    simp [toJson]
  refine ⟨record, found, ?_, by simp, ?_, by simp⟩
  · simpa using field?_of_unset recorded seconds
  · simpa using ⟨field?_of_number each slowed slowdown, field?_of_number each rated rate⟩

end ReadoutControl
