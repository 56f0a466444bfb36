import ReadoutControl.Proofs.Application.Document
import ReadoutControl.Proofs.FakeReadout.Links
import ReadoutControl.Proofs.MiniDaq.Configuration
import ReadoutControl.Proofs.MiniDaq.Flow
import ReadoutControl.Proofs.Payload.ByPlugin

set_option autoImplicit false

/-!
What the modules find in the document of a sequence. Each has one payload of `conf`, which is the
configuration of its plugin with the numbers of the clock. The document can always be read, but the
clock may have no finite rate, and a numeral may be read as a neighbour of the number it stands for.
-/

namespace ReadoutControl

/-- A module and what it is configured with, which is for its plugin and has the numbers of the
clock. -/
structure Configuration (clock : Clock) (triggerRateHz : Option Binary64) where
  target : DaqModule
  conf : ModuleConf
  plugin : conf.plugin = target.plugin
  follows : conf.Follows clock triggerRateHz

namespace Configuration

variable {clock : Clock} {triggerRateHz : Option Binary64}

/-- The payload for the module. -/
def written (c : Configuration clock triggerRateHz) : Addressed :=
  .ofPayload (.exact c.target.inst) c.conf.toJson

/-- The payload is for the module and is the one that was written for it, with its numbers as they
are read. Whether the plugin can read it and what it then reads is settled by what was written. -/
structure FoundIn (c : Configuration clock triggerRateHz) (e : Addressed) : Prop where
  target : e.target = .exact c.target.inst
  payload : ∃ v, e.payload = some v ∧ v = c.conf.toJson.sorted.reread ∧
    ModuleConf.read? c.target.plugin v.tree = c.conf.settled

end Configuration

/-- The payloads of `conf` are those of the configurations. The document is read as a sequence in
which the modules of the topology are the configured ones, in order, and each has one payload of
`conf`, its own. -/
structure CommandSequence.Configures {clock : Clock} {triggerRateHz : Option Binary64}
    (s : CommandSequence) (given : List (Configuration clock triggerRateHz)) : Prop where
  written : ∃ conf, s.command? "conf" = some conf ∧ conf.addressed = given.map Configuration.written
  found : ∃ again t conf, ofText? s.document = some again ∧ again.topology? = some t ∧
    again.command? "conf" = some conf ∧ t.modules = given.map Configuration.target ∧
    given.Forall₂ Configuration.FoundIn conf.addressed

/-- The payload is for the module and can be read for its plugin, with the numbers of the clock. -/
structure DaqModule.IsConfigured (clock : Clock) (triggerRateHz : Option Binary64) (m : DaqModule)
    (e : Addressed) : Prop where
  target : e.target = .exact m.inst
  payload : ∃ v c, e.payload = some v ∧ ModuleConf.read? m.plugin v.tree = some c ∧
    c.Follows clock triggerRateHz

/-- The document is read as a sequence in which each module of the topology has one payload of
`conf`, which can be read for it. -/
def CommandSequence.ConfiguresAll (s : CommandSequence) (clock : Clock)
    (triggerRateHz : Option Binary64) : Prop :=
  ∃ again t conf, ofText? s.document = some again ∧ again.topology? = some t ∧
    again.command? "conf" = some conf ∧
    t.modules.Forall₂ (DaqModule.IsConfigured clock triggerRateHz) conf.addressed

theorem FakeReadout.source_follows (f : FakeReadout) :
    (ModuleConf.cardReader f.sourceConf).Follows f.clock none := by
  refine ⟨rfl, fun x set => ?_⟩
  have rate : (if 0 < f.tpLinks then TpRate.khz f.clock.rateKhz else .disabled) = .khz x :=
    Option.some.inj set
  split at rate
  · exact (TpRate.khz.inj rate).symm
  · cases rate

/-- What the modules of the fake readout are configured with, in order. -/
def FakeReadout.configurations (f : FakeReadout) : List (Configuration f.clock none) :=
  ⟨f.source, .cardReader f.sourceConf, rfl, f.source_follows⟩ ::
    (f.dataIndices.map (fun i =>
      ⟨f.dataHandler i, .linkHandler (f.dataHandlerConf i), rfl, rfl, rfl, rfl⟩) ++
    f.softwareIndices.map fun i =>
      ⟨tpHandler i, .linkHandler (f.tpHandlerConf i), rfl, rfl, rfl, rfl⟩)

/-- What the modules of the mini DAQ are configured with, in order. -/
def MiniDaq.configurations (m : MiniDaq) (tokens : TokenSplit) :
    List (Configuration m.clock (some m.triggerRateHz)) :=
  [⟨trigger, .trigger (m.triggerConf tokens.triggerEmulator), rfl, rfl, rfl, _, rfl, rfl⟩,
    ⟨m.request, .request m.requestConf, rfl, trivial⟩,
    ⟨fragments, .fragments fragmentConf, rfl, trivial⟩,
    ⟨writer, .writer (m.writerConf tokens.dataWriter), rfl, trivial⟩,
    ⟨m.source, .cardReader m.sourceConf, rfl, rfl, by simp [sourceConf]⟩] ++
  (m.indices.map (fun i =>
      ⟨dataHandler i, .linkHandler (m.handlerConf i), rfl, rfl, rfl, rfl⟩) ++
    m.indices.map fun i => ⟨recorder i, .recorder (m.recorderConf i), rfl, trivial⟩)

section Reading

variable {clock : Clock} {triggerRateHz : Option Binary64} {s : CommandSequence}
  {given : List (Configuration clock triggerRateHz)}

theorem Configuration.foundIn_reread (c : Configuration clock triggerRateHz) :
    c.FoundIn c.written.reread where
  target := rfl
  payload := by
    refine ⟨c.conf.toJson.sorted.reread, rfl, rfl, ?_⟩
    rw [Json.reread_sorted, Json.tree_sorted, ← c.plugin, ModuleConf.read?_reread c.follows]

/-- What a portable sequence configures its modules with is found in its document. -/
theorem CommandSequence.Portable.configures (portable : s.Portable) {t : Topology} {c : Command}
    (topology : s.topology? = some t) (modules : t.modules = given.map Configuration.target)
    (found : s.command? "conf" = some c)
    (written : c.addressed = given.map Configuration.written) : s.Configures given where
  written := ⟨c, found, written⟩
  found := by
    refine ⟨s.reread, t, c.reread, ofText?_reread portable, ?_, ?_, modules, ?_⟩
    · rw [topology?_reread, topology]
    · rw [command?_reread, found]
      rfl
    · rw [Command.addressed_reread, written, List.forall₂_map_right_iff, List.forall₂_map_right_iff,
        List.forall₂_same]
      intro c _
      exact c.foundIn_reread

/-- A module can read its payload with the numbers of the clock exactly if its configuration settles
to one that has them. -/
theorem Configuration.FoundIn.isConfigured_iff {c : Configuration clock triggerRateHz}
    {e : Addressed} (here : c.FoundIn e) :
    DaqModule.IsConfigured clock triggerRateHz c.target e ↔
      ∃ d, c.conf.settled = some d ∧ d.Follows clock triggerRateHz := by
  obtain ⟨v, payload, _, read⟩ := here.payload
  constructor
  · intro configured
    obtain ⟨w, d, same, found, follows⟩ := configured.payload
    obtain rfl : v = w := Option.some.inj (payload.symm.trans same)
    exact ⟨d, read.symm.trans found, follows⟩
  · rintro ⟨d, settled, follows⟩
    exact ⟨here.target, v, d, payload, read.trans settled, follows⟩

theorem Configuration.forall_isConfigured_iff {entries : List Addressed}
    (each : given.Forall₂ FoundIn entries) :
    (given.map target).Forall₂ (DaqModule.IsConfigured clock triggerRateHz) entries ↔
      ∀ c ∈ given, ∃ d, c.conf.settled = some d ∧ d.Follows clock triggerRateHz := by
  induction each with
  | nil => simp
  | cons here _ ih =>
    rw [List.map_cons, List.forall₂_cons, List.forall_mem_cons, here.isConfigured_iff, ih]

theorem CommandSequence.Configures.configuresAll_iff (configures : s.Configures given) :
    s.ConfiguresAll clock triggerRateHz ↔
      ∀ c ∈ given, ∃ d, c.conf.settled = some d ∧ d.Follows clock triggerRateHz := by
  obtain ⟨again, t, conf, read, topology, found, modules, each⟩ := configures.found
  rw [← Configuration.forall_isConfigured_iff each, ← modules]
  constructor
  · rintro ⟨again', t', conf', read', topology', found', each'⟩
    obtain rfl := Option.some.inj (read.symm.trans read')
    obtain rfl := Option.some.inj (topology.symm.trans topology')
    obtain rfl := Option.some.inj (found.symm.trans found')
    exact each'
  · intro each
    exact ⟨again, t, conf, read, topology, found, each⟩

/-- Where the numbers of the clock are read back, every module can read its configuration. -/
theorem CommandSequence.Configures.configuresAll (configures : s.Configures given)
    (numbers : ∀ x ∈ [clock.rateKhz, clock.latencyBufferSize, clock.frequencyHz,
      Dimensions.popLimit, Dimensions.popSize], x.ReadsBack) :
    s.ConfiguresAll clock triggerRateHz := by
  apply configures.configuresAll_iff.mpr
  intro c _
  exact ⟨c.conf, ModuleConf.settled_eq c.follows numbers, c.follows⟩

end Reading

theorem FakeReadout.configures_of_generate {f : FakeReadout} {r : Registry} {s : CommandSequence}
    (generated : f.generate r = .ok s) : s.Configures f.configurations := by
  obtain rfl := eq_of_generate generated
  apply (CommandSequence.portable_of_made (f.commands_made f.plan.topology)).configures
    (t := f.plan.topology) (c := f.conf) rfl
  · rw [modules_eq, configurations, List.map_cons, List.map_append, List.map_map, List.map_map]
    rfl
  · rfl
  · rw [conf_addressed, configurations, List.map_cons, List.map_append, List.map_map, List.map_map]
    rfl

theorem MiniDaq.configures_of_generate {m : MiniDaq} {r : Registry} {s : CommandSequence}
    (generated : m.generate r = .ok s) :
    ∃ tokens, TokenSplit.ofCount? m.tokenCount = some tokens ∧
      s.Configures (m.configurations tokens) := by
  obtain ⟨tokens, split, rfl⟩ := eq_of_generate generated
  refine ⟨tokens, split, ?_⟩
  apply (CommandSequence.portable_of_made (m.commands_made tokens m.plan.topology)).configures
    (t := m.plan.topology) (c := m.conf tokens) rfl
  · rw [modules_eq, configurations, List.map_append, List.map_append, List.map_map, List.map_map]
    rfl
  · rfl
  · rw [conf_addressed, configurations, List.append_assoc, List.map_append, List.map_append,
      List.map_map, List.map_map]
    rfl

/-- Each module of a generated sequence has one payload of `conf` in the document, the one that was
written for it with the numbers of the clock. It can be read for the plugin of the module exactly if
the numbers that the plugin needs are finite, and it is then read as it was written, but for those
numbers, which are what their numerals are read as. -/
theorem generated_configures :
    (∀ (f : FakeReadout) (r : Registry) (s : CommandSequence), f.generate r = .ok s →
      s.Configures f.configurations) ∧
    ∀ (m : MiniDaq) (r : Registry) (s : CommandSequence), m.generate r = .ok s →
      ∃ tokens, TokenSplit.ofCount? m.tokenCount = some tokens ∧
        s.Configures (m.configurations tokens) :=
  ⟨fun _ _ _ generated => FakeReadout.configures_of_generate generated,
    fun _ _ _ generated => MiniDaq.configures_of_generate generated⟩

/-- The numbers of the standard clock are read back, so every module of both standard applications
can read its configuration, with them. -/
theorem standard_configures :
    (∃ s, FakeReadout.standard.generate .builtin = .ok s ∧
      s.Configures FakeReadout.standard.configurations ∧
      s.ConfiguresAll FakeReadout.standard.clock none) ∧
    ∃ s, MiniDaq.standard.generate .builtin = .ok s ∧
      s.Configures (MiniDaq.standard.configurations ⟨10, 0⟩) ∧
      s.ConfiguresAll MiniDaq.standard.clock (some (.ofNat 1)) := by
  have numbers : ∀ x ∈ [FakeReadout.standard.clock.rateKhz,
      FakeReadout.standard.clock.latencyBufferSize, FakeReadout.standard.clock.frequencyHz,
      Dimensions.popLimit, Dimensions.popSize], x.ReadsBack := by decide +kernel
  obtain ⟨s, generated⟩ := FakeReadout.standard.generate_builtin_ok (by decide) (by decide)
  have split : TokenSplit.ofCount? MiniDaq.standard.tokenCount = some ⟨10, 0⟩ := by decide
  obtain ⟨s', generated'⟩ := MiniDaq.generate_builtin_ok split
  have configures := generated_configures.1 _ _ s generated
  obtain ⟨tokens, same, configures'⟩ := generated_configures.2 _ _ s' generated'
  obtain rfl := Option.some.inj (split.symm.trans same)
  refine ⟨⟨s, generated, configures, ?_⟩, s', generated', configures', ?_⟩
  · exact configures.configuresAll numbers
  · exact configures'.configuresAll numbers

/-- Where the modules can read their configurations, the source's rate is read back. -/
theorem FakeReadout.rateKhz_of_configuresAll {f : FakeReadout} {r : Registry} {s : CommandSequence}
    (generated : f.generate r = .ok s) (configured : s.ConfiguresAll f.clock none) :
    f.clock.rateKhz.isFinite = true ∧ f.clock.rateKhz.reread = f.clock.rateKhz := by
  have each := (configures_of_generate generated).configuresAll_iff.mp configured
  obtain ⟨d, settled, follows⟩ := each _ (List.mem_cons_self ..)
  unfold ModuleConf.settled at settled
  split at settled
  · next finite =>
    obtain rfl := Option.some.inj settled
    exact ⟨finite _ (List.mem_singleton.mpr rfl), follows.1⟩
  · cases settled

/-- No text stands for the rate at a slowdown of zero, and the one at a slowdown of thirteen is read
as a neighbour of the rate. -/
theorem not_always_configures :
    (∃ s, FakeReadout.generate { FakeReadout.standard with slowdown := .ofNat 0 } .builtin = .ok s ∧
      ¬ s.ConfiguresAll (.ofSlowdown (.ofNat 0)) none) ∧
    ∃ s, FakeReadout.generate { FakeReadout.standard with slowdown := .ofNat 13 } .builtin = .ok s ∧
      ¬ s.ConfiguresAll (.ofSlowdown (.ofNat 13)) none := by
  obtain ⟨s, generated⟩ := FakeReadout.generate_builtin_ok
    (f := { FakeReadout.standard with slowdown := .ofNat 0 }) (by decide) (by decide)
  obtain ⟨s', generated'⟩ := FakeReadout.generate_builtin_ok
    (f := { FakeReadout.standard with slowdown := .ofNat 13 }) (by decide) (by decide)
  refine ⟨⟨s, generated, ?_⟩, s', generated', ?_⟩
  · intro configured
    have rate := (FakeReadout.rateKhz_of_configuresAll generated configured).1
    exact absurd rate (by decide +kernel)
  · intro configured
    have rate := (FakeReadout.rateKhz_of_configuresAll generated' configured).2
    exact absurd rate (by decide +kernel)

end ReadoutControl
