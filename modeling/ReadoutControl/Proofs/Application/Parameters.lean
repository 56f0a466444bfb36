import ReadoutControl.FakeReadout.Settings
import ReadoutControl.MiniDaq.Settings
import ReadoutControl.Proofs.Json.Object

set_option autoImplicit false

/-!
What a user chooses is read back from the tree it was written to, if the rates are finite.
-/

namespace ReadoutControl

open Json Json.Node

namespace FakeReadout

theorem fits_toJson (f : FakeReadout) {depth : Nat} :
    f.toJson.Fits (·.isFinite = true) (depth + 1) := .obj (by simp)

theorem read?_tree {f : FakeReadout} (finite : f.slowdown.isFinite = true) :
    FakeReadout.read? f.toJson.tree = some f := by
  obtain ⟨record, found, lookup⟩ := record?_tree (v := f.toJson) rfl (by simp) names []
  have data := required?_of_lookup (lookup "data_producers") (uint32?_tree f.dataLinks)
  have tp := required?_of_lookup (lookup "tp_producers") (uint32?_tree f.tpLinks)
  have slowdown := required?_of_lookup (lookup "data_rate_slowdown_factor")
    (float?_tree_of_finite finite)
  have run := required?_of_lookup (lookup "run_number") (uint64?_tree f.run)
  have dataFile := required?_of_lookup (lookup "data_file") (text?_tree f.dataFile)
  have tpFile := required?_of_lookup (lookup "tp_data_file") (text?_tree f.tpDataFile)
  have software := required?_of_lookup (lookup "enable_software_tpg") (bool?_tree f.softwareTpg)
  simp only [FakeReadout.read?, found, data, tp, slowdown, run, dataFile, tpFile, software,
    Option.bind_eq_bind, Option.bind_some]
  rfl

theorem slowdown_of_read? {node : Node} {f : FakeReadout} (read : read? node = some f) :
    ∃ record, node.record? names [] = some record ∧
      required? record "data_rate_slowdown_factor" float? = some f.slowdown := by
  simp only [read?, Option.bind_eq_bind, Option.bind_eq_some_iff] at read
  obtain ⟨record, found, _, _, _, _, slowdown, slowed, _, _, _, _, _, _, _, _, same⟩ := read
  obtain rfl := Option.some.inj same
  exact ⟨record, found, slowed⟩

end FakeReadout

namespace MiniDaq

theorem nodup_keys (m : MiniDaq) : m.toJson.keys.Nodup := by
  have keys : m.toJson.keys.Sublist names := by
    simp only [toJson, Json.keys, List.map_append]
    exact (List.Sublist.refl _).append (keys_optionalField ..)
  exact keys.nodup (by decide)

theorem fits_toJson (m : MiniDaq) {depth : Nat} :
    m.toJson.Fits (·.isFinite = true) (depth + 1) := by
  refine .obj ?_
  simp only [List.forall_mem_append]
  exact ⟨by simp, fits_optionalField fits_uint32⟩

theorem read?_tree {m : MiniDaq} (slowdown : m.slowdown.isFinite = true)
    (rate : m.triggerRateHz.isFinite = true) : MiniDaq.read? m.toJson.tree = some m := by
  obtain ⟨record, found, lookup⟩ := record?_tree (v := m.toJson) rfl m.nodup_keys names
    ["record_duration_s"]
  simp only [List.lookup_append, lookup_optionalField] at lookup
  have data := required?_of_lookup (lookup "data_producers") (uint32?_tree m.dataLinks)
  have emulator := required?_of_lookup (lookup "emulator_mode") (bool?_tree m.emulatorMode)
  have slowdown := required?_of_lookup (lookup "data_rate_slowdown_factor")
    (float?_tree_of_finite slowdown)
  have run := required?_of_lookup (lookup "run_number") (uint64?_tree m.run)
  have rate := required?_of_lookup (lookup "trigger_rate_hz") (float?_tree_of_finite rate)
  have dataFile := required?_of_lookup (lookup "data_file") (text?_tree m.dataFile)
  have output := required?_of_lookup (lookup "output_path") (text?_tree m.outputDirectory)
  have storage := required?_of_lookup (lookup "disable_data_storage")
    (bool?_tree m.disableStorage)
  have tokens := required?_of_lookup (lookup "token_count") (int64?_tree m.tokenCount)
  have recordings := required?_of_lookup (lookup "recording_dir")
    (text?_tree m.recordingDirectory)
  have seconds : optional? record "record_duration_s" uint32? = some m.recordSeconds :=
    optional?_tree (by simp [lookup, lookup_cons]) fun n _ => ⟨by simp [ofNat], uint32?_tree n⟩
  simp only [MiniDaq.read?, found, data, emulator, slowdown, run, rate, dataFile, output, storage,
    tokens, recordings, seconds, Option.bind_eq_bind, Option.bind_some]
  rfl

theorem fields_of_read? {node : Node} {m : MiniDaq} (read : read? node = some m) :
    ∃ record, node.record? names ["record_duration_s"] = some record ∧
      required? record "data_rate_slowdown_factor" float? = some m.slowdown ∧
      required? record "trigger_rate_hz" float? = some m.triggerRateHz ∧
      optional? record "record_duration_s" uint32? = some m.recordSeconds := by
  simp only [read?, Option.bind_eq_bind, Option.bind_eq_some_iff] at read
  obtain ⟨record, found, _, _, _, _, slowdown, slowed, _, _, rate, rated, _, _, _, _, _, _, _, _,
    _, _, seconds, recorded, same⟩ := read
  obtain rfl := Option.some.inj same
  exact ⟨record, found, slowed, rated, recorded⟩

end MiniDaq

end ReadoutControl
