import ReadoutControl.Proofs.Application.Generation
import ReadoutControl.Proofs.MiniDaq.Addressing

set_option autoImplicit false

/-!
When the mini DAQ can be generated. The plugins of all modules must accept the five commands that
address everything; resuming adds to what the trigger must accept and a recording to what the link
handler must.
-/

namespace ReadoutControl

/-- Only the lowest count cannot be split. -/
theorem TokenSplit.ofCount?_eq_none_iff {count : Int64} :
    TokenSplit.ofCount? count = none ↔ count = Int64.minValue := by
  unfold ofCount?
  by_cases positive : 0 < count
  · have other : count ≠ Int64.minValue := by
      rintro rfl
      revert positive
      decide
    simp [positive, other]
  · by_cases lowest : count = Int64.minValue <;> simp [positive, lowest]

namespace MiniDaq

variable {m : MiniDaq} {r : Registry} {tokens : TokenSplit}

/-- The commands that address every module. -/
def common (m : MiniDaq) (tokens : TokenSplit) : List Command :=
  [m.conf tokens, m.start, stop, pause, scrap]

theorem mem_commands {t : Topology} {c : Command} :
    c ∈ (m.commands tokens t).commands ↔
      c = (Command.ofTopology t).withStates .none .initial ∨ c ∈ m.common tokens ∨
        c = m.resume ∨ ∃ seconds, m.recordSeconds = some seconds ∧ c = record seconds := by
  simp only [commands, common, List.mem_append, List.mem_cons, List.not_mem_nil, or_false,
    Option.mem_toList, Option.map_eq_some_iff, eq_comm (b := c)]
  grind

theorem common_addressed (m : MiniDaq) (tokens : TokenSplit) :
    ∀ c ∈ m.common tokens, ∀ d ∈ m.plan.modules, c.Addresses d.inst := by
  intro c member d here
  have name : d.inst ∈ m.plan.topology.moduleNames := List.mem_map_of_mem here
  simp only [common, List.mem_cons, List.not_mem_nil, or_false] at member
  rcases member with rfl | rfl | rfl | rfl | rfl
  · exact Command.addresses_of_exact (m.conf_targets tokens) name
  · exact Command.addresses_of_reach (start_reach name)
  · exact Command.addresses_of_reach (stop_reach name)
  · exact Command.addresses_of_any pause_targets d.inst
  · exact Command.addresses_of_any scrap_targets d.inst

theorem order_named (m : MiniDaq) : ∀ a ∈ startOrder, a.isExact = true →
    a.text ∈ m.plan.topology.moduleNames := by
  have singles : ∀ a ∈ startOrder, a.isExact = true → a.text ∈ moduleSingles := by decide
  exact fun a member exact => mem_moduleNames.mpr (.inl (singles a member exact))

theorem commands_named (m : MiniDaq) (tokens : TokenSplit) :
    ∀ c ∈ (m.commands tokens m.plan.topology).commands, c.NamesModules m.plan.topology := by
  intro c member
  rcases mem_commands.mp member with rfl | everything | rfl | ⟨seconds, _, rfl⟩
  · apply Command.namesModules_of_patterns
    simp [Command.targets, Command.addressed, Command.ofTopology, Command.withStates]
  · simp only [common, List.mem_cons, List.not_mem_nil, or_false] at everything
    rcases everything with rfl | rfl | rfl | rfl | rfl
    · exact Command.namesModules_of_exact (m.conf_targets tokens)
    · rw [Command.namesModules_iff_targets, start_targets]
      exact m.order_named
    · rw [Command.namesModules_iff_targets, stop_targets]
      intro a target
      exact m.order_named a (stopOrder_perm.mem_iff.mpr target)
    · apply Command.namesModules_of_patterns
      simp [pause_targets, Address.any, Address.isExact]
    · apply Command.namesModules_of_patterns
      simp [scrap_targets, Address.any, Address.isExact]
  · rw [Command.namesModules_iff_targets, resume_targets]
    intro a target _
    obtain rfl := List.mem_singleton.mp target
    exact m.tde_mem
  · apply Command.namesModules_of_patterns
    simp [record_targets, Address.isExact]

theorem coherent (m : MiniDaq) (tokens : TokenSplit) :
    Registry.Coherent m.plan (m.commands tokens) where
  wired := m.plan_wired
  carried := rfl
  named := m.commands_named tokens

theorem forall_plugins_iff (m : MiniDaq) (P : String → Prop) :
    (∀ d ∈ m.plan.modules, P d.plugin) ↔
      P "TriggerDecisionEmulator" ∧ (P "RequestGenerator" ∧ P "FragmentReceiver" ∧ P "DataWriter" ∧
        P "FakeCardReader") ∧ (0 < m.dataLinks → P "DataLinkHandler" ∧ P "DataRecorder") := by
  have links : 0 < m.dataLinks ↔ 0 < m.dataLinks.toNat := UInt32.lt_iff_toNat_lt
  simp only [plan_modules, List.forall_mem_append, List.forall_mem_cons, List.forall_mem_map,
    dataHandler, recorder, indices, List.mem_range]
  constructor
  · rintro ⟨⟨trigger, request, fragment, writer, source, _⟩, data, recorder⟩
    refine ⟨trigger, ⟨request, fragment, writer, source⟩, fun some_link => ?_⟩
    exact ⟨data 0 (links.mp some_link), recorder 0 (links.mp some_link)⟩
  · rintro ⟨trigger, ⟨request, fragment, writer, source⟩, handlers⟩
    refine ⟨⟨trigger, request, fragment, writer, source, by simp⟩, ?_, ?_⟩
    · exact fun i number => (handlers (links.mpr (Nat.zero_lt_of_lt number))).1
    · exact fun i number => (handlers (links.mpr (Nat.zero_lt_of_lt number))).2

/-- What the registry must offer for the mini DAQ. -/
structure Served (m : MiniDaq) (r : Registry) : Prop where
  trigger : r.Serves "TriggerDecisionEmulator"
    ["conf", "start", "stop", "pause", "resume", "scrap"]
  dataflow : ∀ plugin ∈ ["RequestGenerator", "FragmentReceiver", "DataWriter", "FakeCardReader"],
    r.Serves plugin ["conf", "start", "stop", "pause", "scrap"]
  recorder : 0 < m.dataLinks →
    r.Serves "DataRecorder" ["conf", "start", "stop", "pause", "scrap"]
  handler : 0 < m.dataLinks →
    r.Serves "DataLinkHandler" (["conf", "start", "stop", "pause", "scrap"] ++
      if m.recordSeconds.isSome then ["record"] else [])

/-- The commands find acceptance exactly if the five common ones are accepted everywhere, resuming
by the trigger and a recording by the link handler. -/
theorem accepted_iff :
    (∀ c ∈ (m.commands tokens m.plan.topology).commands, ∀ d ∈ m.plan.modules,
        c.Addresses d.inst → r.Accepts d.plugin c.id) ↔
      (∀ d ∈ m.plan.modules, ∀ id ∈ ["conf", "start", "stop", "pause", "scrap"],
        r.Accepts d.plugin id) ∧
      r.Accepts "TriggerDecisionEmulator" "resume" ∧
      (m.recordSeconds.isSome = true → 0 < m.dataLinks → r.Accepts "DataLinkHandler" "record") := by
  constructor
  · intro each
    refine ⟨fun d here => ?_, ?_, fun recorded some_link => ?_⟩
    · have accepts : ∀ c ∈ m.common tokens, r.Accepts d.plugin c.id := fun c member =>
        each c (mem_commands.mpr (.inr (.inl member))) d here
          (m.common_addressed tokens c member d here)
      exact List.forall_mem_map.mpr accepts
    · have trigger : (⟨"tde", "TriggerDecisionEmulator", triggerConnections⟩ : DaqModule) ∈
          m.plan.modules := by simp [plan_modules]
      exact each m.resume (mem_commands.mpr (.inr (.inr (.inl rfl)))) _ trigger
        (resume_addresses_iff.mpr rfl)
    · obtain ⟨seconds, chosen⟩ := Option.isSome_iff_exists.mp recorded
      have first : 0 ∈ m.indices := List.mem_range.mpr (UInt32.lt_iff_toNat_lt.mp some_link)
      have handler : dataHandler 0 ∈ m.plan.modules := by
        rw [plan_modules, List.mem_append, List.mem_append]
        exact .inr (.inl (List.mem_map_of_mem first))
      exact each (record seconds) (mem_commands.mpr (.inr (.inr (.inr ⟨seconds, chosen, rfl⟩)))) _
        handler ((record_addresses_iff handler).mpr rfl)
  · rintro ⟨everywhere, resume, recording⟩ c member d here addressed
    rcases mem_commands.mp member with rfl | common | rfl | ⟨seconds, chosen, rfl⟩
    · simp [Command.Addresses, Command.addressed, Command.ofTopology, Command.withStates]
        at addressed
    · have accepts : ∀ c ∈ m.common tokens, r.Accepts d.plugin c.id :=
        List.forall_mem_map.mp (everywhere d here)
      exact accepts c common
    · rw [plugin_tde here (resume_addresses_iff.mp addressed)]
      exact resume
    · have handler := (record_addresses_iff here).mp addressed
      have links := (m.forall_plugins_iff fun plugin =>
        plugin = "DataLinkHandler" → 0 < m.dataLinks).mpr
          ⟨by simp, by simp, fun some_link => ⟨fun _ => some_link, fun _ => some_link⟩⟩
      rw [handler]
      exact recording (by simp [chosen]) (links d here handler)

theorem served_iff :
    m.Served r ↔ (∀ d ∈ m.plan.modules, ∀ id ∈ ["conf", "start", "stop", "pause", "scrap"],
        r.Accepts d.plugin id) ∧
      r.Accepts "TriggerDecisionEmulator" "resume" ∧
      (m.recordSeconds.isSome = true → 0 < m.dataLinks →
        r.Accepts "DataLinkHandler" "record") := by
  rw [m.forall_plugins_iff fun plugin => ∀ id ∈ ["conf", "start", "stop", "pause", "scrap"],
    r.Accepts plugin id]
  have kept : ∀ id ∈ ["conf", "start", "stop", "pause", "scrap"],
      id ∈ ["conf", "start", "stop", "pause", "resume", "scrap"] := by decide
  constructor
  · intro served
    have trigger := (Registry.serves_iff (List.cons_ne_nil _ _)).mp served.trigger
    have dataflow plugin member := (Registry.serves_iff (List.cons_ne_nil _ _)).mp
      (served.dataflow plugin member)
    have recorder some_link := (Registry.serves_iff (List.cons_ne_nil _ _)).mp
      (served.recorder some_link)
    have handler some_link := (Registry.serves_iff (by simp)).mp (served.handler some_link)
    refine ⟨⟨fun id member => trigger id (kept id member), ?_, fun some_link => ?_⟩, ?_, ?_⟩
    · exact ⟨dataflow _ (by simp), dataflow _ (by simp), dataflow _ (by simp),
        dataflow _ (by simp)⟩
    · exact ⟨fun id member => handler some_link id (List.mem_append_left _ member),
        recorder some_link⟩
    · exact trigger "resume" (by decide)
    · intro recorded some_link
      exact handler some_link "record" (by simp [recorded])
  · rintro ⟨⟨trigger, ⟨request, fragment, writer, source⟩, links⟩, resume, recording⟩
    refine ⟨?_, ?_, fun some_link => ?_, fun some_link => ?_⟩
    · refine (Registry.serves_iff (List.cons_ne_nil _ _)).mpr ?_
      simp only [List.forall_mem_cons] at trigger ⊢
      exact ⟨trigger.1, trigger.2.1, trigger.2.2.1, trigger.2.2.2.1, resume, trigger.2.2.2.2⟩
    · intro plugin member
      rw [Registry.serves_iff (List.cons_ne_nil _ _)]
      simp only [List.mem_cons, List.not_mem_nil, or_false] at member
      rcases member with rfl | rfl | rfl | rfl
      · exact request
      · exact fragment
      · exact writer
      · exact source
    · exact (Registry.serves_iff (List.cons_ne_nil _ _)).mpr (links some_link).2
    · refine (Registry.serves_iff (by simp)).mpr (List.forall_mem_append.mpr
        ⟨(links some_link).1, ?_⟩)
      cases recorded : m.recordSeconds.isSome with
      | false => simp
      | true => simpa using recording recorded some_link

theorem generate_eq_assemble (split : TokenSplit.ofCount? m.tokenCount = some tokens) :
    m.generate r = r.assemble m.plan (m.commands tokens) := by
  simp only [generate, split]
  rfl

theorem generate_of_lowest (lowest : TokenSplit.ofCount? m.tokenCount = none) :
    m.generate r = match m.topology r with
      | .error e => .error (.topology e)
      | .ok _ => .error (.overflow .negation) := by
  simp only [generate, lowest]
  cases m.topology r <;> rfl

/-- A generated sequence is made of the planned topology and its commands. -/
theorem eq_of_generate {s : CommandSequence} (generated : m.generate r = .ok s) :
    ∃ tokens, TokenSplit.ofCount? m.tokenCount = some tokens ∧
      s = m.commands tokens m.plan.topology := by
  cases split : TokenSplit.ofCount? m.tokenCount with
  | none =>
    rw [generate_of_lowest split] at generated
    cases build : m.topology r <;> simp [build] at generated
  | some tokens =>
    rw [generate_eq_assemble split] at generated
    exact ⟨tokens, rfl, ((m.coherent tokens).assemble_ok_iff.mp generated).1⟩

theorem assemble_ok_iff (built : r.Built) :
    (∃ s, r.assemble m.plan (m.commands tokens) = .ok s) ↔ m.Served r := by
  simp only [(m.coherent tokens).assemble_ok_iff, exists_eq_left, accepted_iff, served_iff]
  constructor
  · exact fun ⟨_, accepted⟩ => accepted
  · refine fun accepted => ⟨fun d here => ?_, accepted⟩
    obtain ⟨p, found, _⟩ := accepted.1 d here "conf" (List.mem_cons_self ..)
    exact (built.hasPlugin_iff d.plugin).mpr ⟨p, found⟩

theorem builtin_served (m : MiniDaq) : m.Served .builtin where
  trigger := by decide
  dataflow := by decide
  recorder _ := by decide
  handler _ := by cases m.recordSeconds.isSome <;> decide

theorem generate_builtin_ok (split : TokenSplit.ofCount? m.tokenCount = some tokens) :
    ∃ s, m.generate .builtin = .ok s := by
  rw [generate_eq_assemble split]
  exact (assemble_ok_iff .builtin).mpr m.builtin_served

/-- Generation succeeds exactly for a registry that serves the mini DAQ, and a fault lies with its
plugins. The lowest token count cannot be generated: it fails when the tokens are split, after the
topology has been checked. -/
theorem generate_ok_iff_served (built : r.Built) :
    (m.tokenCount ≠ Int64.minValue →
      ((∃ s, m.generate r = .ok s) ↔ m.Served r) ∧ ∀ e, m.generate r = .error e → e.OfPlugin) ∧
    (m.tokenCount = Int64.minValue →
      m.generate r = match m.topology r with
        | .error e => .error (.topology e)
        | .ok _ => .error (.overflow .negation)) := by
  constructor
  · intro other
    have splits : TokenSplit.ofCount? m.tokenCount ≠ none := by
      rw [ne_eq, TokenSplit.ofCount?_eq_none_iff]
      exact other
    obtain ⟨tokens, split⟩ := Option.ne_none_iff_exists'.mp splits
    rw [generate_eq_assemble split]
    exact ⟨assemble_ok_iff built, fun e refused => (m.coherent tokens).assemble_error built refused⟩
  · intro lowest
    exact generate_of_lowest (TokenSplit.ofCount?_eq_none_iff.mpr lowest)

/-- The builtin plugins serve the standard mini DAQ with a recording, but not with the lowest token
count. -/
theorem generate_ok_recording :
    (∃ s, generate { standard with recordSeconds := some 5 } .builtin = .ok s) ∧
      generate { standard with tokenCount := Int64.minValue } .builtin =
        .error (.overflow .negation) := by
  constructor
  · exact ((generate_ok_iff_served .builtin).1 (by decide)).1.mpr (builtin_served _)
  · have sound : topology { standard with tokenCount := Int64.minValue } .builtin = .ok _ :=
      (Plan.build_eq (plan_wired _) .builtin).trans rfl
    rw [(generate_ok_iff_served .builtin).2 rfl, sound]

end MiniDaq

end ReadoutControl
