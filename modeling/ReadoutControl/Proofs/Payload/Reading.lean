import ReadoutControl.Payload.Run
import ReadoutControl.Proofs.Json.Record
import ReadoutControl.Proofs.Payload.Keys

set_option autoImplicit false

/-!
Payloads are read back from the trees they were written to, as far as their rates are finite. A rate
that is not finite is written as null, which no required rate can be read from.
-/

namespace ReadoutControl

open Json Json.Node

theorem NoParameters.read?_tree (p : NoParameters) :
    NoParameters.read? p.toJson.tree = some p := rfl

theorem RunStart.nodup_keys (s : RunStart) : s.toJson.keys.Nodup := by
  have keys : s.toJson.keys.Sublist
      ["run", "trigger_interval_ticks", "disable_data_storage"] := by
    simp only [toJson, Json.keys, List.map_append]
    exact ((List.Sublist.refl _).append (keys_optionalField ..)).append (keys_optionalField ..)
  exact keys.nodup (by decide)

theorem RunStart.read?_tree (s : RunStart) : RunStart.read? s.toJson.tree = some s := by
  obtain ⟨record, found, lookup⟩ := record?_tree (v := s.toJson) rfl s.nodup_keys
    ["run", "trigger_interval_ticks", "disable_data_storage"]
    ["trigger_interval_ticks", "disable_data_storage"]
  simp only [List.lookup_append, lookup_optionalField] at lookup
  have run := required?_of_lookup (lookup "run") (uint64?_tree s.run)
  have interval : optional? record "trigger_interval_ticks" int64? = some s.triggerInterval :=
    optional?_tree (by simp [lookup, lookup_cons]) fun n _ => ⟨by simp, int64?_tree n⟩
  have disable : optional? record "disable_data_storage" bool? = some s.disableStorage :=
    optional?_tree (by simp [lookup, lookup_cons]) fun b _ => ⟨by simp, bool?_tree b⟩
  simp only [RunStart.read?, found, run, interval, disable, Option.bind_eq_bind, Option.bind_some]
  rfl

theorem Recording.read?_tree (r : Recording) : Recording.read? r.toJson.tree = some r := by
  obtain ⟨record, found, lookup⟩ := record?_tree (v := r.toJson) rfl (by simp) ["duration"] []
  have duration := required?_of_lookup (lookup "duration") (uint32?_tree r.duration)
  simp only [Recording.read?, found, duration, Option.bind_eq_bind, Option.bind_some]
  rfl

theorem TriggerResume.read?_tree (r : TriggerResume) :
    TriggerResume.read? r.toJson.tree = some r := by
  obtain ⟨record, found, lookup⟩ := record?_tree (v := r.toJson) rfl (by simp)
    ["trigger_interval_ticks"] []
  have interval := required?_of_lookup (lookup "trigger_interval_ticks")
    (int64?_tree r.triggerInterval)
  simp only [TriggerResume.read?, found, interval, Option.bind_eq_bind, Option.bind_some]
  rfl

theorem TpRate.read?_tree {rate : TpRate} (finite : ∀ x, rate = .khz x → x.isFinite = true) :
    TpRate.read? rate.toJson.tree = some rate := by
  cases rate with
  | disabled => rfl
  | khz x =>
    have written : (TpRate.khz x).toJson.tree = .float x := by
      simp [TpRate.toJson, ofBinary64, finite x rfl, tree, Json.sorted, ofJson]
    rw [written]
    rfl

theorem TpRate.toJson_ne_null {rate : TpRate} (finite : ∀ x, rate = .khz x → x.isFinite = true) :
    rate.toJson ≠ .null := by
  cases rate with
  | disabled => simp [TpRate.toJson]
  | khz x => simp [TpRate.toJson, ofBinary64, finite x rfl]

theorem CardReaderConf.read?_tree {c : CardReaderConf} (rate : c.rateKhz.isFinite = true)
    (tpRate : ∀ x, c.tpRate = some (.khz x) → x.isFinite = true) :
    CardReaderConf.read? c.toJson.tree = some c := by
  obtain ⟨record, found, lookup⟩ := record?_tree (v := c.toJson) rfl c.nodup_keys
    names optionalNames
  simp only [List.lookup_append, lookup_optionalField] at lookup
  have linkIds := required?_of_lookup (lookup "link_ids") (links?_tree c.linkIds)
  have inputLimit := required?_of_lookup (lookup "input_limit") (uint64?_tree c.inputLimit)
  have rateKhz := required?_of_lookup (lookup "rate_khz") (float?_tree_of_finite rate)
  have rawType := required?_of_lookup (lookup "raw_type") (text?_tree c.rawType)
  have dataFile := required?_of_lookup (lookup "data_filename") (text?_tree c.dataFile)
  have timeout := required?_of_lookup (lookup "queue_timeout_ms") (uint64?_tree c.queueTimeoutMs)
  have setT0 : optional? record "set_t0_to" int64? = some c.setT0To :=
    optional?_tree (by simp [lookup, lookup_cons]) fun n _ => ⟨by simp, int64?_tree n⟩
  have tpEnabled : optional? record "tp_enabled" text? = some c.tpEnabled :=
    optional?_tree (by simp [lookup, lookup_cons]) fun s _ => ⟨by simp, text?_tree s⟩
  have tpRate : optional? record "tp_rate_khz" TpRate.read? = some c.tpRate :=
    optional?_tree (by simp [lookup, lookup_cons]) fun rate set =>
      have finite : ∀ x, rate = .khz x → x.isFinite = true := fun x same => tpRate x (same ▸ set)
      ⟨TpRate.toJson_ne_null finite, TpRate.read?_tree finite⟩
  have tpDataFile : optional? record "tp_data_filename" text? = some c.tpDataFile :=
    optional?_tree (by simp [lookup, lookup_cons]) fun s _ => ⟨by simp, text?_tree s⟩
  simp only [CardReaderConf.read?, found, linkIds, inputLimit, rateKhz, rawType, dataFile, timeout,
    setT0, tpEnabled, tpRate, tpDataFile, Option.bind_eq_bind, Option.bind_some]
  rfl

theorem LinkHandlerConf.read?_tree {c : LinkHandlerConf}
    (latency : c.latencyBufferSize.isFinite = true) (limit : c.popLimit.isFinite = true)
    (size : c.popSize.isFinite = true) : LinkHandlerConf.read? c.toJson.tree = some c := by
  obtain ⟨record, found, lookup⟩ := record?_tree (v := c.toJson) rfl c.nodup_keys
    names optionalNames
  simp only [List.lookup_append, lookup_optionalField] at lookup
  have rawType := required?_of_lookup (lookup "raw_type") (text?_tree c.rawType)
  have emulator : optional? record "emulator_mode" bool? = some c.emulatorMode :=
    optional?_tree (by simp [lookup, lookup_cons]) fun b _ => ⟨by simp, bool?_tree b⟩
  have timeout : required? record "source_queue_timeout_ms" uint64? = some c.sourceQueueTimeoutMs :=
    required?_of_lookup (by simp [lookup, lookup_cons]) (uint64?_tree c.sourceQueueTimeoutMs)
  have trigger : required? record "fake_trigger_flag" uint32? = some c.fakeTriggerFlag :=
    required?_of_lookup (by simp [lookup, lookup_cons]) (uint32?_tree c.fakeTriggerFlag)
  have latency : required? record "latency_buffer_size" float? = some c.latencyBufferSize :=
    required?_of_lookup (by simp [lookup, lookup_cons]) (float?_tree_of_finite latency)
  have limit : required? record "pop_limit_pct" float? = some c.popLimit :=
    required?_of_lookup (by simp [lookup, lookup_cons]) (float?_tree_of_finite limit)
  have size : required? record "pop_size_pct" float? = some c.popSize :=
    required?_of_lookup (by simp [lookup, lookup_cons]) (float?_tree_of_finite size)
  have apa : required? record "apa_number" uint32? = some c.apaNumber :=
    required?_of_lookup (by simp [lookup, lookup_cons]) (uint32?_tree c.apaNumber)
  have link : required? record "link_number" uint32? = some c.linkNumber :=
    required?_of_lookup (by simp [lookup, lookup_cons]) (uint32?_tree c.linkNumber)
  have software : optional? record "enable_software_tpg" bool? = some c.softwareTpg :=
    optional?_tree (by simp [lookup, lookup_cons]) fun b _ => ⟨by simp, bool?_tree b⟩
  simp only [LinkHandlerConf.read?, found, rawType, emulator, timeout, trigger, latency, limit,
    size, apa, link, software, Option.bind_eq_bind, Option.bind_some]
  rfl

theorem RecorderConf.read?_tree (c : RecorderConf) : RecorderConf.read? c.toJson.tree = some c := by
  obtain ⟨record, found, lookup⟩ := record?_tree (v := c.toJson) rfl c.nodup_keys
    ["output_file", "compression_algorithm", "stream_buffer_size"] []
  have output := required?_of_lookup (lookup "output_file") (text?_tree c.outputFile)
  have compression := required?_of_lookup (lookup "compression_algorithm")
    (text?_tree c.compression)
  have buffer := required?_of_lookup (lookup "stream_buffer_size")
    (uint64?_tree c.streamBufferSize)
  simp only [RecorderConf.read?, found, output, compression, buffer, Option.bind_eq_bind,
    Option.bind_some]
  rfl

theorem TriggerConf.read?_tree {c : TriggerConf} (frequency : c.clockFrequency.isFinite = true) :
    TriggerConf.read? c.toJson.tree = some c := by
  obtain ⟨record, found, lookup⟩ := record?_tree (v := c.toJson) rfl c.nodup_keys names []
  have links := required?_of_lookup (lookup "links") (links?_tree c.links)
  have minLinks := required?_of_lookup (lookup "min_links_in_request") (uint32?_tree c.minLinks)
  have maxLinks := required?_of_lookup (lookup "max_links_in_request") (uint32?_tree c.maxLinks)
  have minWindow := required?_of_lookup (lookup "min_readout_window_ticks")
    (uint64?_tree c.minWindow)
  have maxWindow := required?_of_lookup (lookup "max_readout_window_ticks")
    (uint64?_tree c.maxWindow)
  have offset := required?_of_lookup (lookup "trigger_window_offset")
    (uint64?_tree c.windowOffset)
  have delay := required?_of_lookup (lookup "trigger_delay_ticks") (int64?_tree c.triggerDelay)
  have interval := required?_of_lookup (lookup "trigger_interval_ticks")
    (int64?_tree c.triggerInterval)
  have frequency := required?_of_lookup (lookup "clock_frequency_hz")
    (float?_tree_of_finite frequency)
  have tokens := required?_of_lookup (lookup "initial_token_count") (int64?_tree c.initialTokens)
  simp only [TriggerConf.read?, found, links, minLinks, maxLinks, minWindow, maxWindow, offset,
    delay, interval, frequency, tokens, Option.bind_eq_bind, Option.bind_some]
  rfl

theorem RequestRoute.read?_tree (r : RequestRoute) : RequestRoute.read? r.toJson.tree = some r := by
  obtain ⟨record, found, lookup⟩ := record?_tree (v := r.toJson) rfl r.nodup_keys
    ["apa", "link", "queueinstance"] []
  have apa := required?_of_lookup (lookup "apa") (uint32?_tree r.apa)
  have link := required?_of_lookup (lookup "link") (uint32?_tree r.link)
  have queue := required?_of_lookup (lookup "queueinstance") (text?_tree r.queue)
  simp only [RequestRoute.read?, found, apa, link, queue, Option.bind_eq_bind, Option.bind_some]
  rfl

theorem RequestConf.read?_tree (c : RequestConf) : RequestConf.read? c.toJson.tree = some c := by
  obtain ⟨record, found, lookup⟩ := record?_tree (v := c.toJson) rfl c.nodup_keys ["map"] []
  have routes := required?_of_lookup (lookup "map")
    (list?_tree fun r _ => RequestRoute.read?_tree r)
  simp only [RequestConf.read?, found, routes, Option.bind_eq_bind, Option.bind_some]
  rfl

theorem FragmentConf.read?_tree (c : FragmentConf) : FragmentConf.read? c.toJson.tree = some c := by
  obtain ⟨record, found, lookup⟩ := record?_tree (v := c.toJson) rfl c.nodup_keys
    ["general_queue_timeout"] []
  have timeout := required?_of_lookup (lookup "general_queue_timeout")
    (uint64?_tree c.queueTimeout)
  simp only [FragmentConf.read?, found, timeout, Option.bind_eq_bind, Option.bind_some]
  rfl

theorem FileNaming.read?_tree (n : FileNaming) : FileNaming.read? n.toJson.tree = some n := by
  obtain ⟨record, found, lookup⟩ := record?_tree (v := n.toJson) rfl (by simp)
    ["overall_prefix", "digits_for_run_number", "file_index_prefix", "digits_for_file_index"] []
  have overall := required?_of_lookup (lookup "overall_prefix") (text?_tree n.overallPrefix)
  have run := required?_of_lookup (lookup "digits_for_run_number") (uint32?_tree n.runDigits)
  have index := required?_of_lookup (lookup "file_index_prefix") (text?_tree n.indexPrefix)
  have digits := required?_of_lookup (lookup "digits_for_file_index") (uint32?_tree n.indexDigits)
  simp only [FileNaming.read?, found, overall, run, index, digits, Option.bind_eq_bind,
    Option.bind_some]
  rfl

theorem FileLayout.read?_tree (l : FileLayout) : FileLayout.read? l.toJson.tree = some l := by
  obtain ⟨record, found, lookup⟩ := record?_tree (v := l.toJson) rfl (by simp)
    ["trigger_record_name_prefix", "digits_for_trigger_number", "digits_for_apa_number",
      "digits_for_link_number"] []
  have start := required?_of_lookup (lookup "trigger_record_name_prefix")
    (text?_tree l.recordPrefix)
  have trigger := required?_of_lookup (lookup "digits_for_trigger_number")
    (uint32?_tree l.triggerDigits)
  have apa := required?_of_lookup (lookup "digits_for_apa_number") (uint32?_tree l.apaDigits)
  have link := required?_of_lookup (lookup "digits_for_link_number") (uint32?_tree l.linkDigits)
  simp only [FileLayout.read?, found, start, trigger, apa, link, Option.bind_eq_bind,
    Option.bind_some]
  rfl

theorem DataStoreConf.read?_tree (c : DataStoreConf) :
    DataStoreConf.read? c.toJson.tree = some c := by
  obtain ⟨record, found, lookup⟩ := record?_tree (v := c.toJson) rfl (by simp)
    ["name", "type", "directory_path", "mode", "max_file_size_bytes", "filename_parameters",
      "file_layout_parameters"] []
  have name := required?_of_lookup (lookup "name") (text?_tree c.name)
  have kind := required?_of_lookup (lookup "type") (text?_tree c.kind)
  have directory := required?_of_lookup (lookup "directory_path") (text?_tree c.directory)
  have mode := required?_of_lookup (lookup "mode") (text?_tree c.mode)
  have size := required?_of_lookup (lookup "max_file_size_bytes") (uint64?_tree c.maxFileSize)
  have naming := required?_of_lookup (lookup "filename_parameters") c.naming.read?_tree
  have layout := required?_of_lookup (lookup "file_layout_parameters") c.layout.read?_tree
  simp only [DataStoreConf.read?, found, name, kind, directory, mode, size, naming, layout,
    Option.bind_eq_bind, Option.bind_some]
  rfl

theorem DataWriterConf.read?_tree (c : DataWriterConf) :
    DataWriterConf.read? c.toJson.tree = some c := by
  obtain ⟨record, found, lookup⟩ := record?_tree (v := c.toJson) rfl c.nodup_keys
    ["initial_token_count", "data_store_parameters"] []
  have tokens := required?_of_lookup (lookup "initial_token_count") (int64?_tree c.initialTokens)
  have store := required?_of_lookup (lookup "data_store_parameters") c.store.read?_tree
  simp only [DataWriterConf.read?, found, tokens, store, Option.bind_eq_bind, Option.bind_some]
  rfl

end ReadoutControl
