import Mathlib.Data.List.Nodup
import Mathlib.Data.List.Perm.Basic
import ReadoutControl.Proofs.MiniDaq.Wiring
import ReadoutControl.Proofs.Topology.Wires

set_option autoImplicit false

/-!
How data flows through the mini DAQ. Every queue is read by one module and every queue that is not
shared is written by one, a different one, so that none is left dangling for any number of links.
The shared queues are written by all data handlers.
-/

namespace ReadoutControl

open Text (numbered roster)

namespace MiniDaq

def trigger : DaqModule := ⟨"tde", "TriggerDecisionEmulator", triggerConnections⟩

def request (m : MiniDaq) : DaqModule := ⟨"rqg", "RequestGenerator", m.requestConnections⟩

def fragments : DaqModule := ⟨"ffr", "FragmentReceiver", fragmentConnections⟩

def writer : DaqModule := ⟨"datawriter", "DataWriter", writerConnections⟩

def source (m : MiniDaq) : DaqModule := ⟨"fake_source", "FakeCardReader", m.sourceConnections⟩

/-- The modules there are one of, in order. -/
def singles (m : MiniDaq) : List DaqModule := [trigger, m.request, fragments, writer, m.source]

theorem modules_eq (m : MiniDaq) :
    m.plan.topology.modules = m.singles ++ (m.indices.map dataHandler ++ m.indices.map recorder) :=
  m.plan_modules

section Members

variable {m : MiniDaq} {l : Nat}

theorem single_mem_modules {d : DaqModule} (single : d ∈ m.singles) :
    d ∈ m.plan.topology.modules := by
  rw [modules_eq]
  exact List.mem_append_left _ single

theorem dataHandler_mem (number : l ∈ m.indices) : dataHandler l ∈ m.plan.topology.modules := by
  rw [modules_eq]
  exact List.mem_append_right _ (List.mem_append_left _ (List.mem_map_of_mem number))

theorem recorder_mem (number : l ∈ m.indices) : recorder l ∈ m.plan.topology.modules := by
  rw [modules_eq]
  exact List.mem_append_right _ (List.mem_append_right _ (List.mem_map_of_mem number))

section Cases

variable {P : DaqModule → Prop} (trigger : P trigger) (request : P m.request)
  (fragments : P fragments) (writer : P writer) (source : P m.source)

include trigger request fragments writer source

@[elab_as_elim]
theorem of_mem_singles {d : DaqModule} (single : d ∈ m.singles) : P d := by
  simp only [singles, List.mem_cons, List.not_mem_nil, or_false] at single
  rcases single with rfl | rfl | rfl | rfl | rfl
  · exact trigger
  · exact request
  · exact fragments
  · exact writer
  · exact source

/-- What holds of each kind of module holds of all modules. -/
@[elab_as_elim]
theorem of_mem_modules (handler : ∀ i ∈ m.indices, P (dataHandler i))
    (recorder : ∀ i ∈ m.indices, P (recorder i)) {d : DaqModule}
    (member : d ∈ m.plan.topology.modules) : P d := by
  rw [modules_eq, List.mem_append, List.mem_append] at member
  rcases member with single | handles | records
  · exact of_mem_singles trigger request fragments writer source single
  · obtain ⟨i, number, rfl⟩ := List.mem_map.mp handles
    exact handler i number
  · obtain ⟨i, number, rfl⟩ := List.mem_map.mp records
    exact recorder i number

end Cases

end Members

theorem request_reached_output (m : MiniDaq) :
    m.request.reached .output =
      "trigger_decision_copy_for_bookkeeping" :: m.indices.map (numbered "data_requests_") := by
  have routes := DaqModule.reached_output_of_outputs
    (m := ⟨"rqg", "RequestGenerator", m.requestOutputs⟩) rfl
  rw [request, requestConnections_eq, DaqModule.reached_append, routes]
  rfl

theorem request_reached_input (m : MiniDaq) :
    m.request.reached .input = ["trigger_decision_q"] := by
  have routes := DaqModule.reached_input_of_outputs
    (m := ⟨"rqg", "RequestGenerator", m.requestOutputs⟩) rfl
  rw [request, requestConnections_eq, DaqModule.reached_append, routes]
  rfl

theorem source_reached_output (m : MiniDaq) :
    m.source.reached .output = m.indices.map (numbered "wib_fake_link_") :=
  DaqModule.reached_output_of_outputs rfl

theorem source_reached_input (m : MiniDaq) : m.source.reached .input = [] :=
  DaqModule.reached_input_of_outputs rfl

theorem dataHandler_reached_output (i : Nat) :
    (dataHandler i).reached .output =
      ["time_sync_q", "data_fragments_q", numbered "snb_link_" i] := rfl

theorem dataHandler_reached_input (i : Nat) :
    (dataHandler i).reached .input =
      [numbered "wib_fake_link_" i, numbered "data_requests_" i] := rfl

theorem recorder_reached_output (i : Nat) : (recorder i).reached .output = [] := rfl

theorem recorder_reached_input (i : Nat) :
    (recorder i).reached .input = [numbered "snb_link_" i] := rfl

/-- Every queue is read once. -/
theorem reached_input_perm (m : MiniDaq) :
    (m.plan.topology.reached .input).Perm (roster queueSingles m.queueFamilies) := by
  have fixed : m.singles.flatMap (·.reached .input) =
      ["time_sync_q", "token_q", "trigger_decision_q", "trigger_decision_copy_for_bookkeeping",
        "data_fragments_q", "trigger_record_q"] := by
    simp only [singles, List.flatMap_cons, request_reached_input, source_reached_input]
    rfl
  have order : ["time_sync_q", "token_q", "trigger_decision_q",
      "trigger_decision_copy_for_bookkeeping", "data_fragments_q", "trigger_record_q"].Perm
        queueSingles := by decide
  have handlers : ((m.indices.map dataHandler).flatMap (·.reached .input)).Perm
      (m.indices.map (numbered "data_requests_") ++ m.indices.map (numbered "wib_fake_link_")) := by
    simp only [List.flatMap_map, dataHandler_reached_input]
    have split := List.flatMap_append_perm m.indices (fun i => [numbered "wib_fake_link_" i])
      fun i => [numbered "data_requests_" i]
    simp only [← List.map_eq_flatMap] at split
    exact split.symm.trans List.perm_append_comm
  have recorders : (m.indices.map recorder).flatMap (·.reached .input) =
      m.indices.map (numbered "snb_link_") := by
    simp only [List.flatMap_map, recorder_reached_input, ← List.map_eq_flatMap]
  rw [Topology.reached, modules_eq, List.flatMap_append, List.flatMap_append, fixed, recorders]
  refine order.append ?_
  simp only [queueFamilies, List.flatMap_cons, List.flatMap_nil, List.append_nil]
  rw [← List.append_assoc]
  exact handlers.append_right _

theorem read_once {m : MiniDaq} {queue : String}
    (declared : queue ∈ roster queueSingles m.queueFamilies) :
    (m.plan.topology.reached .input).count queue = 1 := by
  rw [m.reached_input_perm.count_eq]
  exact List.count_eq_one_of_mem m.distinct_queues.nodup_roster declared

/-- The queues there are one of and that are not shared, in the order they are written. -/
def ownSingles : List String :=
  ["trigger_decision_q", "trigger_decision_copy_for_bookkeeping", "trigger_record_q", "token_q"]

theorem distinct_own (m : MiniDaq) : Text.Distinct ownSingles m.queueFamilies :=
  { m.distinct_queues with
    singles_nodup := by decide
    singles_stem := by decide }

theorem written_once {m : MiniDaq} {queue : String}
    (own : queue ∈ roster ownSingles m.queueFamilies) :
    (m.plan.topology.reached .output).count queue = 1 := by
  have unshared := (List.mem_filter.mp (m.written_unshared.mem_iff.mpr own)).2
  rw [Topology.reached_output, ← List.count_filter (p := (· ∉ sharedQueues)) unshared,
    m.written_unshared.count_eq]
  exact List.count_eq_one_of_mem m.distinct_own.nodup_roster own

theorem own_of_spsc {m : MiniDaq} {q : Queue} (member : q ∈ m.plan.queues) (kind : q.kind = .spsc) :
    q.inst ∈ roster ownSingles m.queueFamilies := by
  rw [plan_queues, List.mem_append, List.mem_append, List.mem_append] at member
  rcases member with ((alone | requests) | raw) | snb
  · rw [Text.mem_roster]
    left
    revert kind
    revert q
    decide
  · obtain ⟨i, number, rfl⟩ := List.mem_map.mp requests
    exact Text.numbered_mem_roster (by simp [queueFamilies]) number
  · obtain ⟨i, number, rfl⟩ := List.mem_map.mp raw
    exact Text.numbered_mem_roster (by simp [queueFamilies]) number
  · obtain ⟨i, number, rfl⟩ := List.mem_map.mp snb
    exact Text.numbered_mem_roster (by simp [queueFamilies]) number

/-- No module reads what it writes. -/
theorem unlooped {m : MiniDaq} {d : DaqModule} (member : d ∈ m.plan.topology.modules) :
    ∀ queue ∈ d.reached .output, queue ∉ d.reached .input := by
  refine of_mem_modules ?trigger ?request ?fragments ?writer ?source ?handler ?recorder member
  case trigger => decide
  case request =>
    intro queue written
    rw [request_reached_output] at written
    rw [request_reached_input, List.mem_singleton]
    rcases List.mem_cons.mp written with rfl | link
    · decide
    · obtain ⟨i, _, rfl⟩ := List.mem_map.mp link
      exact Text.numbered_ne (by decide) "data_requests_" i
  case fragments => decide
  case writer => decide
  case source =>
    intro queue _
    rw [source_reached_input]
    exact List.not_mem_nil
  case handler =>
    intro i _ queue written
    have inputs : ∀ stem ∈ ["wib_fake_link_", "data_requests_"], numbered stem i ≠ queue := by
      intro stem member
      simp only [dataHandler_reached_output, List.mem_cons, List.not_mem_nil, or_false] at written
      rcases written with rfl | rfl | rfl
      · exact Text.numbered_ne (by decide) stem i
      · exact Text.numbered_ne (by decide) stem i
      · intro same
        have stems : ∀ stem ∈ ["wib_fake_link_", "data_requests_"],
            Text.isStem stem = true ∧ stem ≠ "snb_link_" := by decide
        obtain ⟨plain, other⟩ := stems stem member
        exact other ((Text.numbered_inj plain (by decide)).mp same).1
    rw [dataHandler_reached_input]
    simpa [eq_comm] using inputs
  case recorder =>
    intro i _ queue written
    simp [recorder_reached_output] at written

theorem length_topology (m : MiniDaq) :
    m.plan.topology.queues.length = 6 + 3 * m.dataLinks.toNat ∧
      m.plan.topology.modules.length = 5 + 2 * m.dataLinks.toNat := by
  have links : m.indices.length = m.dataLinks.toNat := List.length_range
  constructor
  · rw [m.plan.queues_perm.length_eq, plan_queues]
    simp only [List.length_append, List.length_cons, List.length_nil, List.length_map, links]
    omega
  · rw [modules_eq]
    simp only [singles, List.length_append, List.length_cons, List.length_nil, List.length_map,
      links]
    omega

theorem dataHandlers_eq (m : MiniDaq) :
    m.plan.topology.modules.filter (·.plugin = "DataLinkHandler") = m.indices.map dataHandler := by
  have none : m.singles.filter (·.plugin = "DataLinkHandler") = [] := rfl
  rw [modules_eq, List.filter_append, List.filter_append, none]
  simp [List.filter_map, Function.comp_def, dataHandler, recorder]

theorem recorders_eq (m : MiniDaq) :
    m.plan.topology.modules.filter (·.plugin = "DataRecorder") = m.indices.map recorder := by
  have none : m.singles.filter (·.plugin = "DataRecorder") = [] := rfl
  rw [modules_eq, List.filter_append, List.filter_append, none]
  simp [List.filter_map, Function.comp_def, dataHandler, recorder]

theorem unshared_of_single {m : MiniDaq} {d : DaqModule} (single : d ∈ m.singles) :
    ∀ name ∈ sharedQueues, name ∉ d.reached .output := by
  have apart (stem : String) : ∀ name ∈ sharedQueues, name ∉ m.indices.map (numbered stem) := by
    intro name shared member
    obtain ⟨i, _, rfl⟩ := List.mem_map.mp member
    exact numbered_notMem_sharedQueues stem i shared
  refine of_mem_singles ?trigger ?request ?fragments ?writer ?source single
  case trigger => decide
  case request =>
    intro name shared
    rw [request_reached_output, List.mem_cons, not_or]
    refine ⟨?_, apart "data_requests_" name shared⟩
    revert name
    decide
  case fragments => decide
  case writer => decide
  case source =>
    rw [source_reached_output]
    exact apart "wib_fake_link_"

/-- Every data handler writes each shared queue once, and no other module does. -/
theorem owners_shared (m : MiniDaq) {name : String} (shared : name ∈ sharedQueues) :
    (m.plan.topology.wiresAt .output name).map (·.owner) = m.indices.map dataHandler := by
  have handler (i : Nat) : ((dataHandler i).reached .output).count name = 1 := by
    have own : numbered "snb_link_" i ≠ name := by
      rintro rfl
      exact numbered_notMem_sharedQueues "snb_link_" i shared
    rw [dataHandler_reached_output]
    simp only [sharedQueues, List.mem_cons, List.not_mem_nil, or_false] at shared
    rcases shared with rfl | rfl <;> simp [own]
  have single : (m.singles.flatMap fun d =>
      List.replicate ((d.reached .output).count name) d) = [] := by
    apply List.flatMap_eq_nil_iff.mpr
    intro d member
    rw [List.count_eq_zero.mpr (unshared_of_single member name shared)]
    rfl
  have recorders : ((m.indices.map recorder).flatMap fun d =>
      List.replicate ((d.reached .output).count name) d) = [] := by
    apply List.flatMap_eq_nil_iff.mpr
    intro d member
    obtain ⟨i, _, rfl⟩ := List.mem_map.mp member
    rfl
  rw [Topology.owners_wiresAt, modules_eq, List.flatMap_append, List.flatMap_append, single,
    recorders, List.append_nil, List.nil_append, List.flatMap_map]
  simp only [handler, List.replicate_one, ← List.map_eq_flatMap]

/-- Every queue that is not shared goes from one module to another. -/
theorem wiresAt_of_spsc {m : MiniDaq} {q : Queue} (member : q ∈ m.plan.topology.queues)
    (kind : q.kind = .spsc) : ∃ writer reader : Wire,
      m.plan.topology.wiresAt .output q.inst = [writer] ∧
      m.plan.topology.wiresAt .input q.inst = [reader] ∧
      writer.owner.inst ≠ reader.owner.inst := by
  have planned := m.plan.queues_perm.mem_iff.mp member
  have declared : q.inst ∈ roster queueSingles m.queueFamilies := by
    rw [← queueNames_eq]
    exact List.mem_map_of_mem planned
  have written := written_once (own_of_spsc planned kind)
  have read := read_once declared
  rw [← Topology.length_wiresAt, List.length_eq_one_iff] at written read
  obtain ⟨writer, output⟩ := written
  obtain ⟨reader, input⟩ := read
  refine ⟨writer, reader, output, input, fun same => ?_⟩
  have out := Topology.owner_of_mem_wiresAt (output ▸ List.mem_singleton_self writer)
  have inp := Topology.owner_of_mem_wiresAt (input ▸ List.mem_singleton_self reader)
  have looped : writer.owner = reader.owner :=
    List.inj_on_of_nodup_map m.plan_wired.modules_nodup out.1 inp.1 same
  exact unlooped out.1 q.inst out.2 (looped ▸ inp.2)

/-- The mini DAQ has six queues and five modules, and three queues and two modules more for each
link. A queue for one producer goes from one module to another. The shared queues are each written
once by every data handler and by nothing else, and read once. -/
theorem topology_flow {m : MiniDaq} {r : Registry} {t : Topology} (built : m.topology r = .ok t) :
    (t.queues.length = 6 + 3 * m.dataLinks.toNat ∧
      t.modules.length = 5 + 2 * m.dataLinks.toNat) ∧
    (∀ q ∈ t.queues, q.kind = .spsc → ∃ writer reader : Wire,
      t.wiresAt .output q.inst = [writer] ∧ t.wiresAt .input q.inst = [reader] ∧
        writer.owner.inst ≠ reader.owner.inst) ∧
    ∀ name ∈ ["time_sync_q", "data_fragments_q"],
      name ∈ t.queues.map (·.inst) ∧ (t.wiresAt .output name).length = m.dataLinks.toNat ∧
        (t.wiresAt .output name).map (·.owner) =
          t.modules.filter (·.plugin = "DataLinkHandler") ∧
        ∃ reader, t.wiresAt .input name = [reader] := by
  obtain rfl := Plan.eq_of_build built
  refine ⟨m.length_topology, fun q => wiresAt_of_spsc, fun name shared => ?_⟩
  have owners := m.owners_shared shared
  have singles : ∀ name ∈ sharedQueues, name ∈ queueSingles := by decide
  have declared : name ∈ roster queueSingles m.queueFamilies :=
    Text.mem_roster.mpr (.inl (singles name shared))
  refine ⟨?_, ?_, owners.trans m.dataHandlers_eq.symm, ?_⟩
  · rw [← queueNames_eq] at declared
    exact (m.plan.queues_perm.map (·.inst)).mem_iff.mpr declared
  · have links := congrArg List.length owners
    rwa [List.length_map, List.length_map, indices, List.length_range] at links
  · rw [← List.length_eq_one_iff, Topology.length_wiresAt]
    exact read_once declared

/-- With its two links the standard mini DAQ has twelve queues and nine modules. -/
theorem standard_flow : ∃ t, standard.topology .builtin = .ok t ∧
    t.queues.length = 12 ∧ t.modules.length = 9 ∧ (t.wiresAt .output "time_sync_q").length = 2 := by
  have built : standard.topology .builtin = .ok _ :=
    (Plan.build_eq standard.plan_wired .builtin).trans rfl
  obtain ⟨⟨queues, modules⟩, _, shared⟩ := topology_flow built
  exact ⟨_, built, queues, modules, (shared "time_sync_q" (by simp)).2.1⟩

end MiniDaq

end ReadoutControl
