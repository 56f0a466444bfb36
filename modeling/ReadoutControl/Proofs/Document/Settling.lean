import ReadoutControl.Proofs.Document.Kept
import ReadoutControl.Proofs.Payload.Fitting
import ReadoutControl.Proofs.Topology.Reading

set_option autoImplicit false

/-!
Reading and writing settles a text. What was read from any text of a part is written as a text that
is read as the same part, and that is not changed by being read and written again.
-/

namespace ReadoutControl

open Json Json.Node

variable {α : Type} {fields : Fields} {read? : Node → Option α} {toJson : α → Json}

/-- The document of what a text is read as. -/
def settle? (read? : Node → Option α) (toJson : α → Json) (text : String) : Option String :=
  ((Node.ofText? text.toList).bind read?).map fun x => (toJson x).document

namespace Part

/-- A part that was read is within the depth that can be read, and its tree is read as the part. -/
theorem fits_and_read?_tree (part : Part fields read? toJson) {node : Node} {x : α}
    (within : node.Within maxDepth) (read : read? node = some x) :
    (toJson x).Fits (·.isFinite = true) maxDepth ∧ read? (toJson x).tree = some x := by
  cases part with
  | noParameters => exact ⟨x.isPayload.fits.deeper (by decide), x.read?_tree⟩
  | runStart => exact ⟨x.isPayload.fits.deeper (by decide), x.read?_tree⟩
  | recording => exact ⟨x.isPayload.fits.deeper (by decide), x.read?_tree⟩
  | triggerResume => exact ⟨x.isPayload.fits.deeper (by decide), x.read?_tree⟩
  | tpRate =>
    refine ⟨x.fits_toJson, TpRate.read?_tree ?_⟩
    rintro y rfl
    exact TpRate.isFinite_of_read? within read
  | cardReader =>
    obtain ⟨record, found, rated, _, _, tpRated, _⟩ := CardReaderConf.fields_of_read? read
    obtain ⟨below, _, each⟩ := within.record? found
    refine ⟨x.isPayload.fits.deeper (by decide),
      CardReaderConf.read?_tree (isFinite_of_number each rated) fun y active => ?_⟩
    rw [active, optional?_eq_some_iff] at tpRated
    generalize field : record.lookup "tp_rate_khz" = rate at tpRated
    cases tpRated with
    | value _ read => exact TpRate.isFinite_of_read? (Within.lookup each field) read
  | linkHandler =>
    obtain ⟨record, found, _, latent, limited, sized, _⟩ := LinkHandlerConf.fields_of_read? read
    obtain ⟨below, _, each⟩ := within.record? found
    exact ⟨x.isPayload.fits.deeper (by decide),
      LinkHandlerConf.read?_tree (isFinite_of_number each latent) (isFinite_of_number each limited)
        (isFinite_of_number each sized)⟩
  | recorder => exact ⟨x.isPayload.fits.deeper (by decide), x.read?_tree⟩
  | trigger =>
    obtain ⟨record, found, counted⟩ := TriggerConf.frequency_of_read? read
    obtain ⟨below, _, each⟩ := within.record? found
    exact ⟨x.isPayload.fits.deeper (by decide),
      TriggerConf.read?_tree (isFinite_of_number each counted)⟩
  | requestRoute => exact ⟨.obj (by simp), x.read?_tree⟩
  | request => exact ⟨x.isPayload.fits.deeper (by decide), x.read?_tree⟩
  | fragments => exact ⟨x.isPayload.fits.deeper (by decide), x.read?_tree⟩
  | fileNaming => exact ⟨.obj (by simp), x.read?_tree⟩
  | fileLayout => exact ⟨.obj (by simp), x.read?_tree⟩
  | dataStore => exact ⟨x.fits_toJson, x.read?_tree⟩
  | writer => exact ⟨x.isPayload.fits.deeper (by decide), x.read?_tree⟩
  | queue => exact ⟨x.fits_toJson, x.read?_tree⟩
  | connection => exact ⟨x.fits_toJson, x.read?_tree⟩
  | daqModule => exact ⟨x.fits_toJson, x.read?_tree⟩
  | topology => exact ⟨x.fits_toJson, x.read?_tree⟩
  | address =>
    obtain ⟨text, _, parsed⟩ := Option.bind_eq_some_iff.mp read
    exact ⟨.str x.text, Address.read?_tree (Address.parsed_iff.mpr ⟨text, parsed⟩)⟩
  | addressed =>
    obtain ⟨portable, fits⟩ := Addressed.portable_of_read? within read
    exact ⟨fits, Addressed.read?_tree portable⟩
  | command =>
    obtain ⟨portable, fits⟩ := Command.portable_of_read? within (by decide) read
    exact ⟨fits, Command.read?_tree portable⟩
  | fakeReadout =>
    obtain ⟨record, found, slowed⟩ := FakeReadout.slowdown_of_read? read
    obtain ⟨below, _, each⟩ := within.record? found
    exact ⟨x.fits_toJson, FakeReadout.read?_tree (isFinite_of_number each slowed)⟩
  | miniDaq =>
    obtain ⟨record, found, slowed, rated, _⟩ := MiniDaq.fields_of_read? read
    obtain ⟨below, _, each⟩ := within.record? found
    exact ⟨x.fits_toJson,
      MiniDaq.read?_tree (isFinite_of_number each slowed) (isFinite_of_number each rated)⟩

/-- A record that was read as a part is kept in what is written for it. -/
theorem kept (part : Part fields read? toJson) {node : Node} {x : α}
    (within : node.Within maxDepth) (read : read? node = some x) (named : fields.names ≠ []) :
    ∃ record, node.record? fields.names fields.omitted = some record ∧
      fields.Kept record (toJson x) := by
  cases part with
  | noParameters => exact absurd rfl named
  | tpRate => exact absurd rfl named
  | address => exact absurd rfl named
  | runStart => exact RunStart.kept read
  | cardReader => exact CardReaderConf.kept within read
  | linkHandler => exact LinkHandlerConf.kept within read
  | trigger => exact TriggerConf.kept within read
  | addressed => exact Addressed.kept read
  | command => exact Command.kept read
  | fakeReadout => exact FakeReadout.kept within read
  | miniDaq => exact MiniDaq.kept within read
  | recording | triggerResume | recorder | requestRoute | request | fragments | fileNaming
  | fileLayout | dataStore | writer | queue | connection | daqModule | topology =>
    obtain ⟨record, found, _⟩ := Option.bind_eq_some_iff.mp read
    exact ⟨record, found, by simp, by simp, by simp, by simp⟩

end Part

/-- Every text of a part settles in one step, if the finite numbers that are printed are read back.
Fields that are absent or null stay so, and numbers take the form of a floating-point number. Replay
rates stay off where they were the digit zero, and all other numerals are rates. -/
theorem part_settles (part : Part fields read? toJson) {text : String} {node : Node} {x : α}
    (parsed : Node.ofText? text.toList = some node) (read : read? node = some x)
    (numbers : ∀ y ∈ (toJson x).floats, y.isFinite = true → y.ReadsBack) :
    (Node.ofText? (toJson x).document.toList).bind read? = some x ∧
      settle? read? toJson text = some (toJson x).document ∧
      settle? read? toJson (toJson x).document = some (toJson x).document ∧
      (fields.names ≠ [] →
        ∃ record, node.record? fields.names fields.omitted = some record ∧
          fields.Kept record (toJson x)) ∧
      (∀ rate, TpRate.read? node = some rate →
        node.rateForm? = some rate.toJson ∧ (rate = .disabled ↔ node = .int 0)) ∧
      ∀ value, number? text.toList = some value → value ≠ .unreadable →
        ∃ rate, TpRate.read? node = some rate ∧ (rate = .disabled ↔ text = "0") := by
  have within := within_of_ofText? parsed
  obtain ⟨fits, back⟩ := part.fits_and_read?_tree within read
  have reread : (Node.ofText? (toJson x).document.toList).bind read? = some x := by
    rw [ofText?_document (fits.of_floats numbers), Option.bind_some, back]
  refine ⟨reread, ?_, ?_, part.kept within read, fun rate rated => ⟨?_, ?_⟩, ?_⟩
  · rw [settle?, parsed, Option.bind_some, read, Option.map_some]
  · rw [settle?, reread, Option.map_some]
  · exact TpRate.rateForm?_of_read? within rated
  · rw [← TpRate.read?_eq_disabled_iff, rated, Option.some.injEq]
  · intro value numeral readable
    obtain ⟨rate, rated, zero⟩ := TpRate.ofText?_numeral numeral readable
    rw [parsed, Option.bind_some] at rated
    exact ⟨rate, rated, zero.trans (@String.toList_inj text "0")⟩

/-- A card reader given as an array, with an integer for its rate and without its last field. -/
def shortText : String := "[[0, 1], 10, 2, \"wib\", \"frames.bin\", 100, null, null, 0]"

def shortReader : CardReaderConf where
  linkIds := [0, 1]
  inputLimit := 10
  rateKhz := .ofInt 2
  rawType := "wib"
  dataFile := "frames.bin"
  queueTimeoutMs := 100
  setT0To := none
  tpEnabled := none
  tpRate := some .disabled
  tpDataFile := none

/-- The array settles on an object with a rate of `2.0`, where the replay is off. -/
theorem part_settles_shortText :
    (Node.ofText? shortText.toList).bind CardReaderConf.read? = some shortReader ∧
      (∀ y ∈ shortReader.toJson.floats, y.isFinite = true → y.ReadsBack) ∧
      settle? CardReaderConf.read? CardReaderConf.toJson shortText =
        some shortReader.toJson.document ∧
      settle? CardReaderConf.read? CardReaderConf.toJson shortReader.toJson.document =
        some shortReader.toJson.document ∧
      shortReader.toJson.field? "rate_khz" = some (.float (.ofInt 2)) ∧
      shortReader.toJson.field? "set_t0_to" = none ∧
      shortReader.toJson.field? "tp_rate_khz" = some (.int 0) := by
  have read : (Node.ofText? shortText.toList).bind CardReaderConf.read? = some shortReader := by
    decide +kernel
  have numbers : ∀ y ∈ shortReader.toJson.floats, y.isFinite = true → y.ReadsBack := by
    decide +kernel
  obtain ⟨node, parsed, accepted⟩ := Option.bind_eq_some_iff.mp read
  have settled := part_settles .cardReader parsed accepted numbers
  exact ⟨read, numbers, settled.2.1, settled.2.2.1, rfl, rfl, rfl⟩

end ReadoutControl
