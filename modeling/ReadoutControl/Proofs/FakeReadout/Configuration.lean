import ReadoutControl.Proofs.Application.Numbering
import ReadoutControl.Proofs.Command.Setting
import ReadoutControl.Proofs.FakeReadout.Generation
import ReadoutControl.Proofs.Payload.Keys

set_option autoImplicit false

/-!
What the modules of the fake readout are configured with. The source is told every link in order.
Data handlers are numbered like their links, and those for links made in software after all of
them.
-/

namespace ReadoutControl.FakeReadout

open Text (numbered)

theorem conf_distinct (f : FakeReadout) : (f.conf.targets.map Address.text).Nodup := by
  have texts : f.conf.targets.map Address.text = f.plan.topology.moduleNames := by
    rw [conf_targets, List.map_map]
    exact List.map_id _
  rw [texts]
  exact f.plan_wired.modules_nodup

theorem conf_addressed (f : FakeReadout) :
    f.conf.addressed = .ofPayload (.exact "fake_source") f.sourceConf.toJson ::
      (f.dataIndices.map (fun i =>
        .ofPayload (.exact (numbered "datahandler_" i)) (f.dataHandlerConf i).toJson) ++
      f.softwareIndices.map fun i =>
        .ofPayload (.exact (numbered "tp_datahandler_" i)) (f.tpHandlerConf i).toJson) := by
  cases software : f.softwareTpg <;>
    simp [conf, Command.addressed, Command.ofPayloads, softwareIndices, software]

theorem source_addressed (f : FakeReadout) :
    .ofPayload (.exact "fake_source") f.sourceConf.toJson ∈ f.conf.addressed := by
  rw [conf_addressed]
  exact List.mem_cons_self ..

/-- Links are numbered if a readout is generated. -/
theorem linksFit_of_generate {f : FakeReadout} {r : Registry} {s : CommandSequence}
    (generated : f.generate r = .ok s) :
    f.dataLinks.toNat + f.tpLinks.toNat < UInt32.size ∧ f.softwareLinksFit = true := by
  unfold generate topology at generated
  split at generated
  · next links =>
    refine ⟨links, ?_⟩
    split at generated
    · next software => exact software
    · cases built : f.plan.build r <;> rw [built] at generated <;> exact nomatch generated
  · simp [bind, Except.bind] at generated

variable {f : FakeReadout} {i : Nat}

theorem softwareLink_lt (fit : f.softwareLinksFit = true) (number : i ∈ f.softwareIndices) :
    f.softwareLink i < UInt32.size := by
  obtain ⟨software, data⟩ := mem_softwareIndices.mp number
  simp only [softwareLinksFit, software, Bool.not_true, Bool.false_or, List.all_eq_true,
    decide_eq_true_eq] at fit
  exact fit i data

theorem mem_allIndices {l : Nat} :
    l ∈ f.dataIndices ++ f.tpIndices ↔ l < f.dataLinks.toNat + f.tpLinks.toNat := by
  rw [dataIndices, tpIndices, List.mem_append, List.mem_range, List.mem_range'_1]
  omega

theorem allIndices_eq (f : FakeReadout) :
    f.dataIndices ++ f.tpIndices = List.range (f.dataLinks.toNat + f.tpLinks.toNat) := by
  have tail := List.range'_append_1 (s := 0) (m := f.dataLinks.toNat) (n := f.tpLinks.toNat)
  rw [Nat.zero_add] at tail
  rw [dataIndices, tpIndices, List.range_eq_range', List.range_eq_range', tail]

/-- The source is told the links in order. -/
theorem link_ids_setting (links : f.dataLinks.toNat + f.tpLinks.toNat < UInt32.size) :
    f.conf.setting? "fake_source" "link_ids" =
      some (.arr ((List.range (f.dataLinks.toNat + f.tpLinks.toNat)).map .ofNat)) := by
  have found := Command.setting?_of_mem f.conf_distinct (.exact "fake_source") f.source_addressed
    (CardReaderConf.nodup_keys _) "link_ids"
  have written : f.sourceConf.toJson.field? "link_ids" = some (.arr
      (((f.dataIndices ++ f.tpIndices).map UInt32.ofNat).map fun n => .ofNat n.toNat)) := rfl
  have small : ∀ l ∈ f.dataIndices ++ f.tpIndices, l < UInt32.size := fun l number =>
    Nat.lt_trans (mem_allIndices.mp number) links
  rw [written, Option.map_some, Json.sorted_links small, allIndices_eq] at found
  exact found

theorem source_unnumbered : f.conf.setting? "fake_source" "link_number" = none :=
  Command.setting?_of_mem f.conf_distinct (.exact "fake_source") f.source_addressed
    (CardReaderConf.nodup_keys _) "link_number"

theorem dataHandler_link_number (links : f.dataLinks.toNat + f.tpLinks.toNat < UInt32.size)
    (number : i ∈ f.dataIndices) :
    f.conf.setting? (numbered "datahandler_" i) "link_number" = some (.ofNat i) := by
  have member : .ofPayload (.exact (numbered "datahandler_" i)) (f.dataHandlerConf i).toJson ∈
      f.conf.addressed := by
    rw [conf_addressed]
    exact List.mem_cons_of_mem _ (List.mem_append_left _ (List.mem_map.mpr ⟨i, number, rfl⟩))
  have found : f.conf.setting? (numbered "datahandler_" i) "link_number" =
      some (.ofNat (UInt32.ofNat i).toNat) :=
    Command.setting?_of_mem f.conf_distinct (.exact _) member (LinkHandlerConf.nodup_keys _)
      "link_number"
  have small : i < f.dataLinks.toNat := List.mem_range.mp number
  rw [found, UInt32.toNat_ofNat_of_lt' (by omega)]

theorem tpHandler_link_number (fit : f.softwareLinksFit = true)
    (number : i ∈ f.softwareIndices) :
    f.conf.setting? (numbered "tp_datahandler_" i) "link_number" =
      some (.ofNat (f.softwareLink i)) := by
  have member : .ofPayload (.exact (numbered "tp_datahandler_" i)) (f.tpHandlerConf i).toJson ∈
      f.conf.addressed := by
    rw [conf_addressed]
    exact List.mem_cons_of_mem _ (List.mem_append_right _ (List.mem_map.mpr ⟨i, number, rfl⟩))
  have found : f.conf.setting? (numbered "tp_datahandler_" i) "link_number" =
      some (.ofNat (UInt32.ofNat (f.softwareLink i)).toNat) :=
    Command.setting?_of_mem f.conf_distinct (.exact _) member (LinkHandlerConf.nodup_keys _)
      "link_number"
  rw [found, UInt32.toNat_ofNat_of_lt' (softwareLink_lt fit number)]

end ReadoutControl.FakeReadout
