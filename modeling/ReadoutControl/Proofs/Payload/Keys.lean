import ReadoutControl.Payload.CardReader
import ReadoutControl.Payload.LinkHandler
import ReadoutControl.Payload.Storage
import ReadoutControl.Payload.Trigger
import ReadoutControl.Proofs.Json.Object

set_option autoImplicit false

/-!
No configuration is written with two fields of one name. Where fields may be left out, the keys are
still among the names of all fields and in their order.
-/

namespace ReadoutControl

open Json (keys_optionalField)

theorem TriggerConf.nodup_keys (c : TriggerConf) : c.toJson.keys.Nodup := by
  have keys : c.toJson.keys = names := rfl
  rw [keys]
  decide

theorem RequestRoute.nodup_keys (r : RequestRoute) : r.toJson.keys.Nodup := by
  have keys : r.toJson.keys = ["apa", "link", "queueinstance"] := rfl
  rw [keys]
  decide

theorem RequestConf.nodup_keys (c : RequestConf) : c.toJson.keys.Nodup := by
  have keys : c.toJson.keys = ["map"] := rfl
  rw [keys]
  decide

theorem FragmentConf.nodup_keys (c : FragmentConf) : c.toJson.keys.Nodup := by
  have keys : c.toJson.keys = ["general_queue_timeout"] := rfl
  rw [keys]
  decide

theorem DataWriterConf.nodup_keys (c : DataWriterConf) : c.toJson.keys.Nodup := by
  have keys : c.toJson.keys = ["initial_token_count", "data_store_parameters"] := rfl
  rw [keys]
  decide

theorem CardReaderConf.nodup_keys (c : CardReaderConf) : c.toJson.keys.Nodup := by
  have keys : c.toJson.keys.Sublist names := by
    simp only [toJson, Json.keys, List.map_append]
    exact ((((List.Sublist.refl _).append (keys_optionalField ..)).append
      (keys_optionalField ..)).append (keys_optionalField ..)).append (keys_optionalField ..)
  exact keys.nodup (by decide)

theorem LinkHandlerConf.nodup_keys (c : LinkHandlerConf) : c.toJson.keys.Nodup := by
  have keys : c.toJson.keys.Sublist names := by
    simp only [toJson, Json.keys, List.map_append]
    exact (((List.Sublist.refl _).append (keys_optionalField ..)).append
      (List.Sublist.refl _)).append (keys_optionalField ..)
  exact keys.nodup (by decide)

theorem RecorderConf.nodup_keys (c : RecorderConf) : c.toJson.keys.Nodup := by
  have keys : c.toJson.keys =
    ["output_file", "compression_algorithm", "stream_buffer_size"] := rfl
  rw [keys]
  decide

end ReadoutControl
