import ReadoutControl.Proofs.Command.Setting
import ReadoutControl.Proofs.MiniDaq.Addressing
import ReadoutControl.Proofs.Payload.Keys

set_option autoImplicit false

/-!
What the modules of the mini DAQ are configured with. Each has one payload, which is found under its
name.
-/

namespace ReadoutControl.MiniDaq

open Text (numbered)

theorem conf_distinct (m : MiniDaq) (tokens : TokenSplit) :
    ((m.conf tokens).targets.map Address.text).Nodup := by
  have texts : (m.conf tokens).targets.map Address.text = m.plan.topology.moduleNames := by
    rw [conf_targets, List.map_map]
    exact List.map_id _
  rw [texts]
  exact m.plan_wired.modules_nodup

section Settings

variable (m : MiniDaq) (tokens : TokenSplit) (name : String)

theorem conf_addressed :
    (m.conf tokens).addressed = [
        .ofPayload (.exact "tde") (m.triggerConf tokens.triggerEmulator).toJson,
        .ofPayload (.exact "rqg") m.requestConf.toJson,
        .ofPayload (.exact "ffr") fragmentConf.toJson,
        .ofPayload (.exact "datawriter") (m.writerConf tokens.dataWriter).toJson,
        .ofPayload (.exact "fake_source") m.sourceConf.toJson] ++
      m.indices.map (fun i =>
        .ofPayload (.exact (numbered "datahandler_" i)) (m.handlerConf i).toJson) ++
      m.indices.map fun i =>
        .ofPayload (.exact (numbered "data_recorder_" i)) (m.recorderConf i).toJson := rfl

theorem trigger_setting :
    (m.conf tokens).setting? "tde" name =
      ((m.triggerConf tokens.triggerEmulator).toJson.field? name).map Json.sorted :=
  Command.setting?_of_mem (m.conf_distinct tokens) (.exact "tde") (by simp [conf_addressed])
    (TriggerConf.nodup_keys _) name

theorem request_setting :
    (m.conf tokens).setting? "rqg" name = (m.requestConf.toJson.field? name).map Json.sorted :=
  Command.setting?_of_mem (m.conf_distinct tokens) (.exact "rqg") (by simp [conf_addressed])
    (RequestConf.nodup_keys _) name

theorem fragments_setting :
    (m.conf tokens).setting? "ffr" name = (fragmentConf.toJson.field? name).map Json.sorted :=
  Command.setting?_of_mem (m.conf_distinct tokens) (.exact "ffr") (by simp [conf_addressed])
    (FragmentConf.nodup_keys _) name

theorem writer_setting :
    (m.conf tokens).setting? "datawriter" name =
      ((m.writerConf tokens.dataWriter).toJson.field? name).map Json.sorted :=
  Command.setting?_of_mem (m.conf_distinct tokens) (.exact "datawriter")
    (by simp [conf_addressed]) (DataWriterConf.nodup_keys _) name

theorem source_setting :
    (m.conf tokens).setting? "fake_source" name =
      (m.sourceConf.toJson.field? name).map Json.sorted :=
  Command.setting?_of_mem (m.conf_distinct tokens) (.exact "fake_source")
    (by simp [conf_addressed]) (CardReaderConf.nodup_keys _) name

variable {i : Nat} (number : i ∈ m.indices)

include number

theorem dataHandler_setting :
    (m.conf tokens).setting? (dataHandler i).inst name =
      ((m.handlerConf i).toJson.field? name).map Json.sorted :=
  Command.setting?_of_mem (m.conf_distinct tokens) (.exact (dataHandler i).inst)
    (List.mem_append_left _ (List.mem_append_right _ (List.mem_map_of_mem number)))
    (LinkHandlerConf.nodup_keys _) name

theorem recorder_setting :
    (m.conf tokens).setting? (recorder i).inst name =
      ((m.recorderConf i).toJson.field? name).map Json.sorted :=
  Command.setting?_of_mem (m.conf_distinct tokens) (.exact (recorder i).inst)
    (List.mem_append_right _ (List.mem_map_of_mem number)) (RecorderConf.nodup_keys _) name

end Settings

end ReadoutControl.MiniDaq
