import ReadoutControl.Proofs.FakeReadout.Links

set_option autoImplicit false

/-!
The numbers of links are sums of words, made in three places: before the topology is built, before
the source is configured, and for every handler of a link made in software. With each sum checked
where it is made, generation is the same, and what it gives out are the sums without a bound.
-/

namespace ReadoutControl

/-- The sum of two words, unless it is out of range. -/
def wordSum (a b : UInt32) : Except Fault UInt32 :=
  if a.toNat + b.toNat < UInt32.size then .ok (a + b) else .error (.overflow .addition)

theorem wordSum_eq_ok_iff {a b c : UInt32} :
    wordSum a b = .ok c ↔ c.toNat = a.toNat + b.toNat := by
  unfold wordSum
  split
  next fits =>
    have sum : (a + b).toNat = a.toNat + b.toNat := by
      rw [UInt32.toNat_add, Nat.mod_eq_of_lt fits]
    rw [Except.ok.injEq, ← sum, eq_comm, UInt32.toNat_inj]
  next big =>
    have bound : c.toNat < UInt32.size := c.toNat_lt
    simp only [reduceCtorEq, false_iff]
    omega

/-- Steps that each pass or fail by a test, always for one reason, pass together if all pass. -/
theorem mapM_of_tests {α β ε : Type} {step : α → Except ε β} (passes : α → Bool) (result : α → β)
    (e : ε) {l : List α}
    (each : ∀ a ∈ l, step a = if passes a then .ok (result a) else .error e) :
    l.mapM step = if l.all passes then .ok (l.map result) else .error e := by
  induction l with
  | nil => rfl
  | cons a rest ih =>
    rw [List.forall_mem_cons] at each
    rw [List.mapM_cons, each.1, ih each.2, List.all_cons, List.map_cons]
    cases passes a with
    | false => rfl
    | true => cases rest.all passes <;> rfl

namespace FakeReadout

open Text (numbered)

/-- The readout whose links with trigger primitives end before a number. They begin after the data
links, and a range of words is given by its ends. -/
def upTo (f : FakeReadout) (stop : UInt32) : FakeReadout :=
  { f with tpLinks := stop - f.dataLinks }

/-- What the handler of a link made in software is configured with, if its number is a word. -/
def tpHandlerByWords (f : FakeReadout) (first : UInt32) (i : Nat) :
    Except Fault Addressed := do
  let link ← wordSum first (.ofNat i)
  return .ofPayload (.exact (numbered "tp_datahandler_" i))
    (f.handlerConf "raw_tp" link.toNat none).toJson

/-- The configuration, in which the links are counted for the source and again for the links made in
software. -/
def confByWords (f : FakeReadout) : Except Fault Command := do
  let stop ← wordSum f.dataLinks f.tpLinks
  let source := { f.sourceConf with linkIds := (List.range stop.toNat).map .ofNat }
  let data := f.dataIndices.map fun i =>
    Addressed.ofPayload (.exact (numbered "datahandler_" i)) (f.dataHandlerConf i).toJson
  let software ←
    if f.softwareTpg then do
      let first ← wordSum f.dataLinks f.tpLinks
      f.dataIndices.mapM (f.tpHandlerByWords first)
    else pure []
  return .ofPayloads "conf" (.ofPayload (.exact "fake_source") source.toJson :: data ++ software)

/-- Generation with every sum of link numbers checked where it is made. -/
def generateByWords (f : FakeReadout) (r : Registry) : Except Fault CommandSequence := do
  let stop ← wordSum f.dataLinks f.tpLinks
  let t ← ((f.upTo stop).plan.build r).mapError .topology
  let conf ← f.confByWords
  let s : CommandSequence := ⟨[.ofTopology t, conf, f.start, f.stop, scrap]⟩
  (r.checkSequence s).mapError .sequence
  return s

variable {f : FakeReadout} {r : Registry}

theorem wordSum_links (links : f.dataLinks.toNat + f.tpLinks.toNat < UInt32.size) :
    wordSum f.dataLinks f.tpLinks = pure (f.dataLinks + f.tpLinks) := if_pos links

theorem upTo_sum (f : FakeReadout) : f.upTo (f.dataLinks + f.tpLinks) = f := by
  rw [upTo, UInt32.add_comm, UInt32.add_sub_cancel]

theorem tpHandlerByWords_eq (links : f.dataLinks.toNat + f.tpLinks.toNat < UInt32.size) {i : Nat}
    (number : i ∈ f.dataIndices) :
    f.tpHandlerByWords (f.dataLinks + f.tpLinks) i =
      if decide (f.softwareLink i < UInt32.size) then
        .ok (.ofPayload (.exact (numbered "tp_datahandler_" i)) (f.tpHandlerConf i).toJson)
      else .error (.overflow .addition) := by
  -- The index is below a word, so it is one itself; only the sum may be out of range.
  have small : i < f.dataLinks.toNat := List.mem_range.mp number
  have first : (f.dataLinks + f.tpLinks).toNat = f.dataLinks.toNat + f.tpLinks.toNat :=
    wordSum_eq_ok_iff.mp (wordSum_links links)
  have index : (UInt32.ofNat i).toNat = i := UInt32.toNat_ofNat_of_lt' (by omega)
  by_cases fits : f.softwareLink i < UInt32.size
  · have link : (UInt32.ofNat (f.softwareLink i)).toNat = f.softwareLink i :=
      UInt32.toNat_ofNat_of_lt' fits
    have sum : wordSum (f.dataLinks + f.tpLinks) (.ofNat i) = .ok (.ofNat (f.softwareLink i)) := by
      rw [wordSum_eq_ok_iff, link, first, index]
      rfl
    rw [tpHandlerByWords, sum, if_pos (decide_eq_true fits), tpHandlerConf]
    change Except.ok _ = _
    rw [link]
  · have sum : wordSum (f.dataLinks + f.tpLinks) (.ofNat i) = .error (.overflow .addition) := by
      apply if_neg
      rw [first, index]
      exact fits
    rw [tpHandlerByWords, sum, if_neg (by simpa using fits)]
    rfl

theorem confByWords_eq (links : f.dataLinks.toNat + f.tpLinks.toNat < UInt32.size) :
    f.confByWords =
      if f.softwareLinksFit then .ok f.conf else .error (.overflow .addition) := by
  have stop : (f.dataLinks + f.tpLinks).toNat = f.dataLinks.toNat + f.tpLinks.toNat :=
    wordSum_eq_ok_iff.mp (wordSum_links links)
  have ids : { f.sourceConf with
      linkIds := (List.range (f.dataLinks + f.tpLinks).toNat).map .ofNat } = f.sourceConf := by
    rw [stop, ← allIndices_eq]
    rfl
  have software := mapM_of_tests (fun i => decide (f.softwareLink i < UInt32.size)) _ _
    fun i => tpHandlerByWords_eq links (i := i)
  simp only [confByWords, wordSum_links links, pure_bind, ids]
  cases on : f.softwareTpg with
  | false =>
    simp only [conf, softwareLinksFit, on]
    rfl
  | true =>
    have fit : f.softwareLinksFit =
        f.dataIndices.all fun i => decide (f.softwareLink i < UInt32.size) := by
      simp [softwareLinksFit, on]
    simp only [if_true, software, fit, conf, on]
    cases f.dataIndices.all fun i => decide (f.softwareLink i < UInt32.size) <;> rfl

theorem generateByWords_eq (f : FakeReadout) (r : Registry) :
    f.generateByWords r = f.generate r := by
  by_cases links : f.dataLinks.toNat + f.tpLinks.toNat < UInt32.size
  · rw [generateByWords, generate, topology, if_pos links, wordSum_links links, pure_bind,
      upTo_sum, confByWords_eq links]
    cases (f.plan.build r).mapError Fault.topology with
    | error e => rfl
    | ok t => cases f.softwareLinksFit <;> rfl
  · rw [generateByWords, generate, topology, if_neg links, wordSum, if_neg links]
    rfl

theorem generate_of_refused {e : Fault} (refused : f.topology r = .error e) :
    f.generate r = .error e := by
  rw [generate, refused]
  rfl

/-- On a topology that is built the commands are made and checked, if the links made in software can
be numbered. -/
theorem generate_of_built {t : Topology} (built : f.topology r = .ok t) :
    f.generate r = if f.softwareLinksFit then
      ((r.checkSequence (f.commands t)).mapError Fault.sequence).map fun _ => f.commands t
    else .error (.overflow .addition) := by
  rw [generate, built]
  rfl

/-- Links that can be numbered leave it to the registry whether a topology is built. -/
theorem topology_cases (links : f.dataLinks.toNat + f.tpLinks.toNat < UInt32.size)
    (r : Registry) :
    (∃ e, f.topology r = .error (.topology e)) ∨ ∃ t, f.topology r = .ok t := by
  rw [topology, if_pos links]
  cases f.plan.build r with
  | error e => exact .inl ⟨e, rfl⟩
  | ok t => exact .inr ⟨t, rfl⟩

theorem topology_builtin (links : f.dataLinks.toNat + f.tpLinks.toNat < UInt32.size) :
    f.topology .builtin = .ok f.plan.topology := by
  have known : ∀ m ∈ f.plan.modules, Registry.builtin.hasPlugin m.plugin = true :=
    (f.forall_plugins_iff fun plugin => Registry.builtin.hasPlugin plugin = true).mpr
      ⟨by decide, fun _ => by decide⟩
  have search : f.plan.modules.find? (fun m => !Registry.builtin.hasPlugin m.plugin) = none := by
    simpa using known
  have built := Plan.build_eq f.plan_wired .builtin
  rw [search] at built
  rw [topology, if_pos links, built]
  rfl

/-- The links made in software leave the range of a word by the number of the last of them. -/
theorem softwareLinksFit_iff_not_exceeds :
    f.softwareLinksFit = true ↔ ¬ (f.softwareTpg = true ∧ 0 < f.dataLinks ∧
      2 ^ 32 - 1 < 2 * f.dataLinks.toNat + f.tpLinks.toNat - 1) := by
  have size : UInt32.size = 2 ^ 32 := rfl
  rw [softwareLinksFit_iff, size]
  constructor
  · rintro fit ⟨on, some_link, exceeds⟩
    have := fit on some_link
    omega
  · intro within on some_link
    have last : ¬ 2 ^ 32 - 1 < 2 * f.dataLinks.toNat + f.tpLinks.toNat - 1 := fun exceeds =>
      within ⟨on, some_link, exceeds⟩
    omega

/-- The numbers of links are sums without a bound. -/
structure NumberedBySums (f : FakeReadout) (t : Topology) (conf : Command) : Prop where
  link_ids : conf.setting? "fake_source" "link_ids" =
    some (.arr ((List.range (f.dataLinks.toNat + f.tpLinks.toNat)).map .ofNat))
  outputs : ∃ source, t.module? "fake_source" = some source ∧ source.outputs =
    (List.range (f.dataLinks.toNat + f.tpLinks.toNat)).map (linkOutput f.dataLinks.toNat)
  data : ∀ i < f.dataLinks.toNat,
    conf.setting? (numbered "datahandler_" i) "link_number" = some (.ofNat i)
  software : f.softwareTpg = true → ∀ i < f.dataLinks.toNat,
    conf.setting? (numbered "tp_datahandler_" i) "link_number" =
      some (.ofNat (f.dataLinks.toNat + f.tpLinks.toNat + i))

theorem numberedBySums (links : f.dataLinks.toNat + f.tpLinks.toNat < UInt32.size)
    (fit : f.softwareLinksFit = true) : NumberedBySums f f.plan.topology f.conf where
  link_ids := link_ids_setting links
  outputs := ⟨f.source, module?_of_mem f.source_mem, f.source_outputs.trans f.sourceOutputs_eq⟩
  data _ small := dataHandler_link_number links (List.mem_range.mpr small)
  software on _ small :=
    tpHandler_link_number fit (mem_softwareIndices.mpr ⟨on, List.mem_range.mpr small⟩)

/-- A sum overflows exactly where it leaves the range of a word. If data links and links with
trigger primitives are too many together, that is before anything is built; if only the links made
in software are too many, after the topology is built. All numbers given out are the sums. -/
theorem generate_sums (f : FakeReadout) (r : Registry) :
    f.generate r = f.generateByWords r ∧
    (2 ^ 32 - 1 < f.dataLinks.toNat + f.tpLinks.toNat →
      f.generate r = .error (.overflow .addition)) ∧
    (f.dataLinks.toNat + f.tpLinks.toNat ≤ 2 ^ 32 - 1 →
      (∃ e, f.topology r = .error (.topology e) ∧ f.generate r = .error (.topology e)) ∨
      ∃ t, f.topology r = .ok t ∧
        if f.softwareTpg = true ∧ 0 < f.dataLinks ∧
            2 ^ 32 - 1 < 2 * f.dataLinks.toNat + f.tpLinks.toNat - 1 then
          f.generate r = .error (.overflow .addition)
        else (∃ e, f.generate r = .error (.sequence e)) ∨ ∃ s, f.generate r = .ok s) ∧
    ∀ s, f.generate r = .ok s →
      ∃ t conf, s.topology? = some t ∧ s.command? "conf" = some conf ∧ NumberedBySums f t conf := by
  refine ⟨(f.generateByWords_eq r).symm, ?tooMany, ?built, ?numbers⟩
  case tooMany =>
    intro big
    have exceeds : ¬ f.dataLinks.toNat + f.tpLinks.toNat < UInt32.size := Nat.not_lt_of_le big
    exact generate_of_refused (if_neg exceeds)
  case built =>
    intro links
    rcases topology_cases (Nat.lt_succ_of_le links) r with ⟨e, refused⟩ | ⟨t, built⟩
    · exact .inl ⟨e, refused, generate_of_refused refused⟩
    · refine .inr ⟨t, built, ?_⟩
      have generated := generate_of_built built
      split
      next exceeds =>
        have unfit : ¬ f.softwareLinksFit = true := fun fit =>
          softwareLinksFit_iff_not_exceeds.mp fit exceeds
        rw [generated, if_neg unfit]
      next within =>
        rw [generated, if_pos (softwareLinksFit_iff_not_exceeds.mpr within)]
        cases r.checkSequence (f.commands t) with
        | error e => exact .inl ⟨e, rfl⟩
        | ok _ => exact .inr ⟨_, rfl⟩
  case numbers =>
    intro s generated
    obtain ⟨links, fit⟩ := linksFit_of_generate generated
    obtain rfl := eq_of_generate generated
    exact ⟨_, _, rfl, rfl, numberedBySums links fit⟩

/-- With half the words for data links and software on, the last link is numbered with the last
word; one link with trigger primitives is too many, though not for the topology. -/
theorem generate_sums_boundary :
    generate { standard with dataLinks := 2147483648, tpLinks := 2147483648 } .builtin =
        .error (.overflow .addition) ∧
      generate { standard with dataLinks := 2147483648, tpLinks := 1, softwareTpg := true }
          .builtin = .error (.overflow .addition) ∧
      ∃ s conf, generate { standard with dataLinks := 2147483648, softwareTpg := true } .builtin =
          .ok s ∧ s.command? "conf" = some conf ∧
        conf.setting? (numbered "tp_datahandler_" 2147483647) "link_number" =
          some (.ofNat (2 ^ 32 - 1)) := by
  refine ⟨(generate_sums _ _).2.1 (by decide), ?_, ?_⟩
  · have built := topology_builtin
      (f := { standard with dataLinks := 2147483648, tpLinks := 1, softwareTpg := true })
      (by decide)
    have outcome := (generate_sums
      { standard with dataLinks := 2147483648, tpLinks := 1, softwareTpg := true }
      .builtin).2.2.1 (by decide)
    rcases outcome with ⟨e, refused, _⟩ | ⟨t, _, exceeds⟩
    · rw [built] at refused
      contradiction
    · rwa [if_pos (by decide)] at exceeds
  · obtain ⟨s, generated⟩ := generate_builtin_ok
      (f := { standard with dataLinks := 2147483648, softwareTpg := true }) (by decide)
      (softwareLinksFit_iff_not_exceeds.mpr (by decide))
    obtain ⟨_, conf, _, configured, numbers⟩ := (generate_sums _ _).2.2.2 s generated
    exact ⟨s, conf, generated, configured, numbers.software rfl 2147483647 (by decide)⟩

end FakeReadout

end ReadoutControl
