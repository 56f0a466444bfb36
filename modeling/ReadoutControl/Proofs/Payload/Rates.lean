import ReadoutControl.Proofs.Command.Reread
import ReadoutControl.Proofs.Payload.Reading

set_option autoImplicit false

/-!
The floating-point numbers of payloads. A payload that was read has those that its record holds, as
it has no value where its record has none, and one that is written is read as its numbers are.
-/

namespace ReadoutControl

open Json Json.Node

/-- A number that is not finite is written as null, so what is read from it was finite. -/
theorem Json.isFinite_of_required? {record : List (String × Node)} {name : String}
    {x y : Binary64} (found : record.lookup name = some (ofBinary64 x).tree)
    (read : required? record name float? = some y) : x.isFinite = true := by
  rw [required?, found, Option.bind_some, float?_tree] at read
  split at read
  · next finite => exact finite
  · cases read

def TpRate.reread : TpRate → TpRate
  | disabled => disabled
  | khz rate => khz rate.reread

theorem TpRate.reread_toJson (rate : TpRate) : rate.toJson.reread = rate.reread.toJson := by
  cases rate with
  | disabled => rfl
  | khz rate => exact reread_ofBinary64 rate

theorem reread_links (links : List UInt32) :
    (Json.arr (links.map fun n => .ofNat n.toNat)).reread =
      .arr (links.map fun n => .ofNat n.toNat) := by
  rw [reread_arr, List.map_map]
  rfl

namespace CardReaderConf

def reread (c : CardReaderConf) : CardReaderConf :=
  { c with rateKhz := c.rateKhz.reread, tpRate := c.tpRate.map TpRate.reread }

theorem reread_toJson (c : CardReaderConf) : c.toJson.reread = c.reread.toJson := by
  have rate : (fun rate : TpRate => rate.toJson.reread) = fun rate => rate.reread.toJson :=
    funext TpRate.reread_toJson
  simp [toJson, reread_obj, reread_optionalField, reread_links, reread_ofBinary64, reread,
    Function.comp_def, rate]

theorem fields_of_read? {node : Node} {c : CardReaderConf} (read : read? node = some c) :
    ∃ record, node.record? names optionalNames = some record ∧
      required? record "rate_khz" float? = some c.rateKhz ∧
      optional? record "set_t0_to" int64? = some c.setT0To ∧
      optional? record "tp_enabled" text? = some c.tpEnabled ∧
      optional? record "tp_rate_khz" TpRate.read? = some c.tpRate ∧
      optional? record "tp_data_filename" text? = some c.tpDataFile := by
  simp only [read?, Option.bind_eq_bind, Option.bind_eq_some_iff] at read
  obtain ⟨record, found, _, _, _, _, rate, rated, _, _, _, _, _, _, setT0, set, tpEnabled, enabled,
    tpRate, tpRated, tpFile, filed, same⟩ := read
  obtain rfl := Option.some.inj same
  exact ⟨record, found, rated, set, enabled, tpRated, filed⟩

theorem isFinite_of_read?_tree {c d : CardReaderConf} (read : read? c.toJson.tree = some d) :
    c.rateKhz.isFinite = true := by
  obtain ⟨record, found, lookup⟩ := record?_tree (v := c.toJson) rfl c.nodup_keys
    names optionalNames
  obtain ⟨_, same, rated, _⟩ := fields_of_read? read
  obtain rfl := Option.some.inj (found.symm.trans same)
  exact isFinite_of_required? (lookup "rate_khz") rated

end CardReaderConf

namespace LinkHandlerConf

def reread (c : LinkHandlerConf) : LinkHandlerConf :=
  { c with
    latencyBufferSize := c.latencyBufferSize.reread
    popLimit := c.popLimit.reread
    popSize := c.popSize.reread }

theorem reread_toJson (c : LinkHandlerConf) : c.toJson.reread = c.reread.toJson := by
  simp [toJson, reread_obj, reread_optionalField, reread_ofBinary64, reread, Function.comp_def]

theorem fields_of_read? {node : Node} {c : LinkHandlerConf} (read : read? node = some c) :
    ∃ record, node.record? names optionalNames = some record ∧
      optional? record "emulator_mode" bool? = some c.emulatorMode ∧
      required? record "latency_buffer_size" float? = some c.latencyBufferSize ∧
      required? record "pop_limit_pct" float? = some c.popLimit ∧
      required? record "pop_size_pct" float? = some c.popSize ∧
      optional? record "enable_software_tpg" bool? = some c.softwareTpg := by
  simp only [read?, Option.bind_eq_bind, Option.bind_eq_some_iff] at read
  obtain ⟨record, found, _, _, emulator, emulated, _, _, _, _, latency, latent, limit, limited,
    size, sized, _, _, _, _, software, made, same⟩ := read
  obtain rfl := Option.some.inj same
  exact ⟨record, found, emulated, latent, limited, sized, made⟩

theorem isFinite_of_read?_tree {c d : LinkHandlerConf} (read : read? c.toJson.tree = some d) :
    c.latencyBufferSize.isFinite = true ∧ c.popLimit.isFinite = true ∧
      c.popSize.isFinite = true := by
  obtain ⟨record, found, lookup⟩ := record?_tree (v := c.toJson) rfl c.nodup_keys
    names optionalNames
  simp only [List.lookup_append, lookup_optionalField] at lookup
  obtain ⟨_, same, _, latent, limited, sized, _⟩ := fields_of_read? read
  obtain rfl := Option.some.inj (found.symm.trans same)
  exact ⟨isFinite_of_required? (by simp [lookup, lookup_cons]) latent,
    isFinite_of_required? (by simp [lookup, lookup_cons]) limited,
    isFinite_of_required? (by simp [lookup, lookup_cons]) sized⟩

end LinkHandlerConf

namespace TriggerConf

def reread (c : TriggerConf) : TriggerConf := { c with clockFrequency := c.clockFrequency.reread }

theorem reread_toJson (c : TriggerConf) : c.toJson.reread = c.reread.toJson := by
  simp [toJson, reread_obj, reread_links, reread_ofBinary64, reread]

theorem frequency_of_read? {node : Node} {c : TriggerConf} (read : read? node = some c) :
    ∃ record, node.record? names [] = some record ∧
      required? record "clock_frequency_hz" float? = some c.clockFrequency := by
  simp only [read?, Option.bind_eq_bind, Option.bind_eq_some_iff] at read
  obtain ⟨record, found, _, _, _, _, _, _, _, _, _, _, _, _, _, _, _, _, frequency, counted, _, _,
    same⟩ := read
  obtain rfl := Option.some.inj same
  exact ⟨record, found, counted⟩

theorem isFinite_of_read?_tree {c d : TriggerConf} (read : read? c.toJson.tree = some d) :
    c.clockFrequency.isFinite = true := by
  obtain ⟨record, found, lookup⟩ := record?_tree (v := c.toJson) rfl c.nodup_keys names []
  obtain ⟨_, same, counted⟩ := frequency_of_read? read
  obtain rfl := Option.some.inj (found.symm.trans same)
  exact isFinite_of_required? (lookup "clock_frequency_hz") counted

end TriggerConf

end ReadoutControl
