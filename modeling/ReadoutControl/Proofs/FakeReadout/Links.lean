import Mathlib.Data.List.Nodup
import Mathlib.Data.List.Perm.Basic
import ReadoutControl.Proofs.FakeReadout.Configuration

set_option autoImplicit false

/-!
Topology and configuration of the fake readout number the links alike. The source writes the links in
the order in which it is told them. Each data link has a handler with its number, and where trigger
primitives are made in software each handler feeds another one, which is numbered after all links.
-/

namespace ReadoutControl.FakeReadout

open Text (numbered roster)

/-- The output of the source for a link: data links come first. -/
def linkOutput (dataLinks l : Nat) : Connection :=
  if l < dataLinks then .output (numbered "output_" l) (numbered "wib_fake_link_" l)
  else .output (numbered "tp_output_" l) (numbered "tp_fake_link_" l)

/-- The handler alone is configured with the number of the link, and reads its raw data from the
source's output of that number. -/
structure ReadsLink (t : Topology) (conf : Command) (l : Nat) (handler : DaqModule) : Prop where
  configured : ∀ d ∈ t.modules,
    conf.setting? d.inst "link_number" = some (.ofNat l) ↔ d = handler
  raw : ∃ source raw out, t.module? "fake_source" = some source ∧
    handler.connections.filter (·.name = "raw_input") = [raw] ∧
    source.connections.filter (·.name = numbered "output_" l) = [out] ∧
    raw.dir = .input ∧ out.dir = .output ∧ raw.queue = out.queue

/-- The trigger primitives of a data handler go to one handler, and to no other module. -/
def FeedsOne (t : Topology) (l : Nat) (handler : DaqModule) : Prop :=
  ∃ out tp raw, handler.connections.filter (·.name = "tp_out") = [out] ∧ out.dir = .output ∧
    t.wiresAt .input out.queue = [⟨tp, raw⟩] ∧ tp.inst = numbered "tp_datahandler_" l

/-- The link numbers of the handlers, as they are configured. -/
def handlerNumbers (t : Topology) (conf : Command) : List (Option Json) :=
  (t.modules.filter (·.plugin = "DataLinkHandler")).map fun d => conf.setting? d.inst "link_number"

/-- Topology and configuration agree on the links. -/
structure LinksAgree (f : FakeReadout) (t : Topology) (conf : Command) : Prop where
  link_ids : conf.setting? "fake_source" "link_ids" =
    some (.arr ((List.range (f.dataLinks.toNat + f.tpLinks.toNat)).map .ofNat))
  outputs : ∃ source, t.module? "fake_source" = some source ∧ source.outputs =
    (List.range (f.dataLinks.toNat + f.tpLinks.toNat)).map (linkOutput f.dataLinks.toNat)
  data : ∀ l < f.dataLinks.toNat, ∃ handler, t.module? (numbered "datahandler_" l) = some handler ∧
    ReadsLink t conf l handler ∧ (f.softwareTpg = true → FeedsOne t l handler)
  handlers : (t.modules.filter (·.plugin = "DataLinkHandler")).map (·.inst) =
    (List.range f.dataLinks.toNat).map (numbered "datahandler_") ++
      if f.softwareTpg then (List.range f.dataLinks.toNat).map (numbered "tp_datahandler_") else []
  numbers : handlerNumbers t conf =
    (List.range f.dataLinks.toNat ++ f.softwareIndices.map f.softwareLink).map
      fun l => some (.ofNat l)
  distinct : (handlerNumbers t conf).Nodup
  outside : f.softwareTpg = true → ∀ i < f.dataLinks.toNat, ∃ ids number,
    conf.setting? "fake_source" "link_ids" = some (.arr ids) ∧
      conf.setting? (numbered "tp_datahandler_" i) "link_number" = some number ∧ number ∉ ids
  queues : t.queues.length = 2 + 2 * f.dataLinks.toNat + f.tpLinks.toNat +
    if f.softwareTpg then 2 * f.dataLinks.toNat else 0
  modules : t.modules.length = 1 + f.dataLinks.toNat +
    if f.softwareTpg then f.dataLinks.toNat else 0

variable {f : FakeReadout} {l : Nat}

def source (f : FakeReadout) : DaqModule := ⟨"fake_source", "FakeCardReader", f.sourceOutputs⟩

theorem modules_eq (f : FakeReadout) :
    f.plan.topology.modules =
      f.source :: (f.dataIndices.map f.dataHandler ++ f.softwareIndices.map tpHandler) :=
  f.plan_modules

section Members

theorem source_mem (f : FakeReadout) : f.source ∈ f.plan.topology.modules := by
  rw [modules_eq]
  exact List.mem_cons_self ..

theorem dataHandler_mem (number : l ∈ f.dataIndices) :
    f.dataHandler l ∈ f.plan.topology.modules := by
  rw [modules_eq]
  exact List.mem_cons_of_mem _ (List.mem_append_left _ (List.mem_map_of_mem number))

theorem tpHandler_mem (number : l ∈ f.softwareIndices) :
    tpHandler l ∈ f.plan.topology.modules := by
  rw [modules_eq]
  exact List.mem_cons_of_mem _ (List.mem_append_right _ (List.mem_map_of_mem number))

/-- What holds of each kind of module holds of all modules. -/
@[elab_as_elim]
theorem of_mem_modules {P : DaqModule → Prop} (source : P f.source)
    (data : ∀ i ∈ f.dataIndices, P (f.dataHandler i))
    (software : ∀ i ∈ f.softwareIndices, P (tpHandler i)) {d : DaqModule}
    (member : d ∈ f.plan.topology.modules) : P d := by
  rw [modules_eq, List.mem_cons, List.mem_append] at member
  rcases member with rfl | handles | makes
  · exact source
  · obtain ⟨i, number, rfl⟩ := List.mem_map.mp handles
    exact data i number
  · obtain ⟨i, number, rfl⟩ := List.mem_map.mp makes
    exact software i number

theorem module?_of_mem {d : DaqModule} (member : d ∈ f.plan.topology.modules) :
    f.plan.topology.module? d.inst = some d :=
  find?_of_mem f.plan_wired.modules_nodup member

end Members

theorem handlers_eq (f : FakeReadout) :
    f.plan.topology.modules.filter (·.plugin = "DataLinkHandler") =
      f.dataIndices.map f.dataHandler ++ f.softwareIndices.map tpHandler := by
  have handlers : ∀ d ∈ f.dataIndices.map f.dataHandler ++ f.softwareIndices.map tpHandler,
      d.plugin = "DataLinkHandler" := by
    intro d member
    rcases List.mem_append.mp member with data | software
    · obtain ⟨i, _, rfl⟩ := List.mem_map.mp data
      rfl
    · obtain ⟨i, _, rfl⟩ := List.mem_map.mp software
      rfl
  have other : f.source.plugin ≠ "DataLinkHandler" := by simp [source]
  rw [modules_eq, List.filter_cons_of_neg (by simpa using other)]
  exact List.filter_eq_self.mpr fun d member => decide_eq_true (handlers d member)

section Reading

theorem source_reached_input (f : FakeReadout) : f.source.reached .input = [] := by
  have data := DaqModule.reached_input_of_outputs
    (m := ⟨"fake_source", "FakeCardReader", f.dataIndices.map fun i =>
      .output (numbered "output_" i) (numbered "wib_fake_link_" i)⟩) rfl
  have tp := DaqModule.reached_input_of_outputs
    (m := ⟨"fake_source", "FakeCardReader", f.tpIndices.map fun i =>
      .output (numbered "tp_output_" i) (numbered "tp_fake_link_" i)⟩) rfl
  rw [source, sourceOutputs, DaqModule.reached_append, data, tp]
  rfl

theorem dataHandler_reached_input (f : FakeReadout) (i : Nat) :
    (f.dataHandler i).reached .input =
      [numbered "wib_fake_link_" i, numbered "data_requests_" i] := by
  rw [dataHandler, dataHandlerConnections, DaqModule.reached_append]
  cases f.softwareTpg <;> rfl

theorem tpHandler_reached_input (i : Nat) :
    (tpHandler i).reached .input = [numbered "sw_tp_link_" i, numbered "tp_requests_" i] := rfl

/-- Handlers read the queues of their links once each, and the source reads nothing. -/
theorem reached_input_perm (f : FakeReadout) :
    (f.plan.topology.reached .input).Perm (roster [] [("wib_fake_link_", f.dataIndices),
      ("data_requests_", f.dataIndices), ("sw_tp_link_", f.softwareIndices),
      ("tp_requests_", f.softwareIndices)]) := by
  have pairs (numbers : List Nat) (raw requests : String) :
      (numbers.flatMap fun i => [numbered raw i, numbered requests i]).Perm
        (numbers.map (numbered raw) ++ numbers.map (numbered requests)) := by
    have split := List.flatMap_append_perm numbers (fun i => [numbered raw i])
      fun i => [numbered requests i]
    simp only [← List.map_eq_flatMap] at split
    exact split.symm
  rw [Topology.reached, modules_eq, List.flatMap_cons, source_reached_input, List.flatMap_append,
    List.flatMap_map, List.flatMap_map]
  simp only [dataHandler_reached_input, tpHandler_reached_input, roster, List.flatMap_cons,
    List.flatMap_nil, List.append_nil, List.nil_append]
  rw [← List.append_assoc]
  exact (pairs ..).append (pairs ..)

/-- The queue of a link made in software has one reader. -/
theorem wiresAt_software (number : l ∈ f.softwareIndices) :
    f.plan.topology.wiresAt .input (numbered "sw_tp_link_" l) =
      [⟨tpHandler l, .input "raw_input" (numbered "sw_tp_link_" l)⟩] := by
  have distinct : (f.plan.topology.reached .input).Nodup := by
    refine f.reached_input_perm.symm.nodup (Text.Distinct.nodup_roster ⟨by decide, by simp,
      by simp, ?_, ?_⟩)
    · simp only [List.map_cons, List.map_nil]
      decide
    · simp [nodup_dataIndices, nodup_softwareIndices]
  have read : numbered "sw_tp_link_" l ∈ f.plan.topology.reached .input := by
    rw [f.reached_input_perm.mem_iff]
    exact Text.numbered_mem_roster (by simp) number
  exact Topology.wiresAt_eq_singleton (List.count_eq_one_of_mem distinct read)
    (Topology.mem_wiresAt_of_mem (tpHandler_mem number) (List.mem_cons_self ..))

end Reading

/-- The outputs of the source, link by link. -/
theorem sourceOutputs_eq (f : FakeReadout) :
    f.sourceOutputs =
      (List.range (f.dataLinks.toNat + f.tpLinks.toNat)).map (linkOutput f.dataLinks.toNat) := by
  rw [sourceOutputs, ← allIndices_eq, List.map_append]
  congr 1
  · apply List.map_congr_left
    intro i number
    rw [linkOutput, if_pos (List.mem_range.mp number)]
  · apply List.map_congr_left
    intro i number
    rw [linkOutput, if_neg (Nat.not_lt.mpr (List.mem_range'_1.mp number).1)]

theorem source_outputs (f : FakeReadout) : f.source.outputs = f.sourceOutputs := by
  apply List.filter_eq_self.mpr
  intro c member
  rcases List.mem_append.mp member with data | tp
  · obtain ⟨i, _, rfl⟩ := List.mem_map.mp data
    rfl
  · obtain ⟨i, _, rfl⟩ := List.mem_map.mp tp
    rfl

theorem source_output (number : l ∈ f.dataIndices) :
    f.source.connections.filter (·.name = numbered "output_" l) =
      [.output (numbered "output_" l) (numbered "wib_fake_link_" l)] := by
  have data : (f.dataIndices.map fun i => Connection.output (numbered "output_" i)
      (numbered "wib_fake_link_" i)).filter (·.name = numbered "output_" l) =
        [.output (numbered "output_" l) (numbered "wib_fake_link_" l)] :=
    Connection.filter_numbered (by decide) f.nodup_dataIndices number
  have tp : (f.tpIndices.map fun i => Connection.output (numbered "tp_output_" i)
      (numbered "tp_fake_link_" i)).filter (·.name = numbered "output_" l) = [] :=
    Connection.filter_numbered_of_ne (by decide) (by decide) (by decide)
  rw [source, sourceOutputs, List.filter_append, data, tp, List.append_nil]

section Numbers

variable (links : f.dataLinks.toNat + f.tpLinks.toNat < UInt32.size)
  (fit : f.softwareLinksFit = true)

include links fit

/-- Only the handler of a data link is configured with its number. -/
theorem link_number_iff {d : DaqModule} (member : d ∈ f.plan.topology.modules)
    (number : l ∈ f.dataIndices) :
    f.conf.setting? d.inst "link_number" = some (.ofNat l) ↔ d = f.dataHandler l := by
  have small : l < f.dataLinks.toNat := List.mem_range.mp number
  refine of_mem_modules ?source ?data ?software member
  case source =>
    rw [source, source_unnumbered]
    refine ⟨fun absent => by contradiction, fun same => ?_⟩
    have plugins : "FakeCardReader" = "DataLinkHandler" := congrArg DaqModule.plugin same
    simp at plugins
  case data =>
    intro i data
    rw [dataHandler, dataHandler_link_number links data, Option.some.injEq, Json.ofNat_inj]
    constructor
    · rintro rfl
      rfl
    · intro same
      exact ((Text.numbered_inj (by decide) (by decide)).mp (congrArg DaqModule.inst same)).2
  case software =>
    intro i software
    rw [tpHandler, tpHandler_link_number fit software, Option.some.injEq, Json.ofNat_inj]
    constructor
    · intro same
      unfold softwareLink at same
      omega
    · intro same
      have stems := ((Text.numbered_inj (by decide) (by decide)).mp
        (congrArg DaqModule.inst same)).1
      simp at stems

theorem handlerNumbers_eq :
    handlerNumbers f.plan.topology f.conf =
      (List.range f.dataLinks.toNat ++ f.softwareIndices.map f.softwareLink).map
        fun l => some (.ofNat l) := by
  rw [handlerNumbers, handlers_eq, List.map_append, List.map_append, List.map_map, List.map_map,
    List.map_map]
  congr 1
  · exact List.map_congr_left fun i number => dataHandler_link_number links number
  · exact List.map_congr_left fun i number => tpHandler_link_number fit number

theorem nodup_handlerNumbers : (handlerNumbers f.plan.topology f.conf).Nodup := by
  have inj : Function.Injective fun l : Nat => some (Json.ofNat l) := fun i j same =>
    Json.ofNat_inj.mp (Option.some.inj same)
  have software : Function.Injective f.softwareLink := fun i j same => Nat.add_left_cancel same
  rw [handlerNumbers_eq links fit]
  refine List.Nodup.map inj (List.nodup_append.mpr
    ⟨List.nodup_range, f.nodup_softwareIndices.map software, ?_⟩)
  intro i data j made
  obtain ⟨k, _, rfl⟩ := List.mem_map.mp made
  have := List.mem_range.mp data
  unfold softwareLink
  omega

end Numbers

theorem readsLink (links : f.dataLinks.toNat + f.tpLinks.toNat < UInt32.size)
    (fit : f.softwareLinksFit = true) (number : l ∈ f.dataIndices) :
    ReadsLink f.plan.topology f.conf l (f.dataHandler l) where
  configured d member := link_number_iff links fit member number
  raw := by
    refine ⟨f.source, .input "raw_input" (numbered "wib_fake_link_" l), _,
      module?_of_mem f.source_mem, ?_, source_output number, rfl, rfl, rfl⟩
    rw [dataHandler, dataHandlerConnections]
    cases f.softwareTpg <;> rfl

theorem feedsOne (number : l ∈ f.softwareIndices) :
    FeedsOne f.plan.topology l (f.dataHandler l) := by
  refine ⟨.output "tp_out" (numbered "sw_tp_link_" l), tpHandler l, _, ?_, rfl,
    wiresAt_software number, rfl⟩
  rw [dataHandler, dataHandlerConnections, (mem_softwareIndices.mp number).1]
  rfl

theorem length_queues (f : FakeReadout) :
    f.plan.topology.queues.length = 2 + 2 * f.dataLinks.toNat + f.tpLinks.toNat +
      if f.softwareTpg then 2 * f.dataLinks.toNat else 0 := by
  rw [f.plan.queues_perm.length_eq, plan_queues]
  simp only [List.length_append, List.length_cons, List.length_nil, List.length_map, dataIndices,
    tpIndices, softwareIndices, List.length_range, List.length_range']
  cases f.softwareTpg <;> simp <;> omega

theorem length_modules (f : FakeReadout) :
    f.plan.topology.modules.length = 1 + f.dataLinks.toNat +
      if f.softwareTpg then f.dataLinks.toNat else 0 := by
  rw [modules_eq]
  simp only [List.length_append, List.length_cons, List.length_map, dataIndices, softwareIndices,
    List.length_range]
  cases f.softwareTpg <;> simp <;> omega

theorem conf_linksAgree (links : f.dataLinks.toNat + f.tpLinks.toNat < UInt32.size)
    (fit : f.softwareLinksFit = true) : LinksAgree f f.plan.topology f.conf where
  link_ids := link_ids_setting links
  outputs := ⟨f.source, module?_of_mem f.source_mem, f.source_outputs.trans f.sourceOutputs_eq⟩
  data l small := by
    have number : l ∈ f.dataIndices := List.mem_range.mpr small
    exact ⟨f.dataHandler l, module?_of_mem (dataHandler_mem number), readsLink links fit number,
      fun software => feedsOne (mem_softwareIndices.mpr ⟨software, number⟩)⟩
  handlers := by
    rw [handlers_eq, List.map_append, List.map_map, List.map_map]
    cases software : f.softwareTpg <;> simp [softwareIndices, software] <;> rfl
  numbers := handlerNumbers_eq links fit
  distinct := nodup_handlerNumbers links fit
  outside software i small := by
    have number : i ∈ f.softwareIndices :=
      mem_softwareIndices.mpr ⟨software, List.mem_range.mpr small⟩
    refine ⟨_, _, link_ids_setting links, tpHandler_link_number fit number, fun member => ?_⟩
    obtain ⟨l, known, same⟩ := List.mem_map.mp member
    have within := List.mem_range.mp known
    rw [Json.ofNat_inj.mp same, softwareLink] at within
    omega
  queues := f.length_queues
  modules := f.length_modules

/-- Every generated fake readout has a topology and a configuration that agree on its links. -/
theorem generated_linksNumbered {f : FakeReadout} {r : Registry} {s : CommandSequence}
    (generated : f.generate r = .ok s) :
    ∃ t conf, s.topology? = some t ∧ s.command? "conf" = some conf ∧ LinksAgree f t conf := by
  obtain ⟨links, fit⟩ := linksFit_of_generate generated
  obtain rfl := eq_of_generate generated
  exact ⟨_, _, rfl, rfl, conf_linksAgree links fit⟩

/-- With two data links, a link with trigger primitives and software on, the links made in software
are numbered three and four. -/
theorem software_linksNumbered : ∃ s t conf,
    generate { standard with dataLinks := 2, tpLinks := 1, softwareTpg := true } .builtin = .ok s ∧
      s.topology? = some t ∧ s.command? "conf" = some conf ∧
        LinksAgree { standard with dataLinks := 2, tpLinks := 1, softwareTpg := true } t conf ∧
        handlerNumbers t conf = [0, 1, 3, 4].map fun l => some (.ofNat l) := by
  obtain ⟨s, generated⟩ := generate_builtin_ok
    (f := { standard with dataLinks := 2, tpLinks := 1, softwareTpg := true })
    (by decide) (by decide)
  obtain ⟨t, conf, carried, configured, agree⟩ := generated_linksNumbered generated
  exact ⟨s, t, conf, generated, carried, configured, agree, agree.numbers⟩

end ReadoutControl.FakeReadout
