import Mathlib.Data.List.Forall2
import ReadoutControl.Proofs.Application.Addressing
import ReadoutControl.Proofs.FakeReadout.Links
import ReadoutControl.Proofs.MiniDaq.Flow

set_option autoImplicit false

/-!
Stopping follows the flow of data. Modules of one kind have names of one stem, and so have the
queues that they reach. An entry of the stop command is for the modules of one kind, so that the
order of the entries has to be compared with the wiring of one link only, whatever the number of
links.
-/

namespace ReadoutControl

open Text (numbered roster stem stem_numbered stem_of_isStem)

/-- The kinds of connections: the stems of module and queue with the direction. -/
structure Flow where
  kind : String
  dir : Direction
  queue : String
  deriving DecidableEq

def DaqModule.flows (m : DaqModule) : List Flow :=
  m.connections.map fun c => ⟨stem m.inst, c.dir, stem c.queue⟩

def Topology.flows (t : Topology) : List Flow := t.modules.flatMap DaqModule.flows

theorem Topology.mem_flows {t : Topology} {dir : Direction} {queue : String} {w : Wire}
    (member : w ∈ t.wiresAt dir queue) : ⟨stem w.owner.inst, dir, stem queue⟩ ∈ t.flows := by
  obtain ⟨wired, rfl, rfl⟩ := mem_wiresAt.mp member
  obtain ⟨owner, connection⟩ := mem_wires.mp wired
  exact List.mem_flatMap.mpr ⟨w.owner, owner, List.mem_map_of_mem connection⟩

/-- Along each flow, but for those through some queues, the kind that writes stands before the kind
that reads. -/
def GoesWith (order except : List String) (flows : List Flow) : Prop :=
  ∀ w ∈ flows, ∀ r ∈ flows, w.dir = .output → r.dir = .input → w.queue = r.queue →
    w.queue ∉ except → order.idxOf w.kind < order.idxOf r.kind

instance (order except : List String) (flows : List Flow) :
    Decidable (GoesWith order except flows) := inferInstanceAs (Decidable (∀ _ ∈ _, _))

theorem GoesWith.mono {order except : List String} {flows fewer : List Flow}
    (goes : GoesWith order except flows) (subset : fewer ⊆ flows) : GoesWith order except fewer :=
  fun w hw r hr => goes w (subset hw) r (subset hr)

/-- The address is for the modules of one kind: it is the name of the only one, or the pattern of a
family whose stem no other name begins with. -/
inductive Address.ForKind (singles stems : List String) (kind : String) : Address → Prop
  | single : kind ∈ singles → kind ∉ stems → ForKind singles stems kind (.exact kind)
  | family {p : NamePattern} : p.regex = .ofStem kind → kind ∉ singles →
    (∀ name ∈ singles ++ stems, name ≠ kind → Text.Apart kind name) →
    ForKind singles stems kind (.pattern p)

theorem Address.ForKind.matchesName_iff {singles : List String}
    {families : List (String × List Nat)} {kind name : String} {a : Address}
    (reaches : a.ForKind singles (families.map (·.1)) kind)
    (distinct : Text.Distinct singles families) (member : name ∈ roster singles families) :
    a.matchesName name = true ↔ stem name = kind := by
  cases reaches with
  | single single other =>
    rw [matchesName, beq_iff_eq]
    constructor
    · rintro rfl
      exact stem_of_isStem (distinct.singles_stem kind single)
    · intro same
      exact (Text.eq_of_stem distinct other member same).symm
  | @family p family other apart =>
    rcases Text.mem_roster.mp member with single | ⟨⟨other, numbers⟩, listed, i, _, rfl⟩
    · have different : name ≠ kind := fun same => other (same ▸ single)
      have apart := apart name (List.mem_append_left _ single) different
      simp [matchesName, NamePattern.matchesName_of_apart family apart,
        stem_of_isStem (distinct.singles_stem name single), different]
    · have key : other ∈ families.map (·.1) := List.mem_map_of_mem listed
      rw [stem_numbered (distinct.stems_stem other key), matchesName]
      constructor
      · intro reached
        by_contra different
        have apart := apart other (List.mem_append_right _ key) different
        rw [NamePattern.matchesName_numbered_of_apart family apart] at reached
        exact Bool.false_ne_true reached
      · rintro rfl
        exact NamePattern.matchesName_numbered family i

namespace Command

/-- As to the name, each entry is for the names of one stem. -/
def ServesKinds (c : Command) (kinds : List String) (name : String) : Prop :=
  List.Forall₂ (fun kind a => a.matchesName name = true ↔ stem name = kind) kinds c.targets

theorem servesKinds_of_forKinds {singles : List String} {families : List (String × List Nat)}
    {c : Command} {kinds : List String} {name : String}
    (forKinds : List.Forall₂ (Address.ForKind singles (families.map (·.1))) kinds c.targets)
    (distinct : Text.Distinct singles families) (member : name ∈ roster singles families) :
    c.ServesKinds kinds name :=
  forKinds.imp fun _ _ reaches => reaches.matchesName_iff distinct member

/-- Each of the two modules is reached by one entry, and the entry for the first stands before the
entry for the second. -/
structure Precedes (c : Command) (first second : String) : Prop where
  first_once : c.reach first = 1
  second_once : c.reach second = 1
  before : ∀ (i j : Nat) (d e : Addressed), c.addressed[i]? = some d → c.addressed[j]? = some e →
    d.target.matchesName first = true → e.target.matchesName second = true → i < j

variable {c : Command} {kinds : List String}

theorem ServesKinds.position {name : String} (serves : c.ServesKinds kinds name)
    (distinct : kinds.Nodup) {i : Nat} {e : Addressed} (entry : c.addressed[i]? = some e)
    (reached : e.target.matchesName name = true) : i = kinds.idxOf (stem name) := by
  have target : c.targets[i]? = some e.target := by simp [targets, entry]
  obtain ⟨inside, found⟩ := List.getElem?_eq_some_iff.mp target
  have within : i < kinds.length := serves.length_eq.symm ▸ inside
  have kind : c.targets[i].matchesName name = true ↔ stem name = kinds[i] :=
    serves.get within inside
  rw [found] at kind
  rw [kind.mp reached, distinct.idxOf_getElem]

/-- If the order of the kinds goes with the flow, what writes a queue comes before what reads it. -/
theorem precedes_of_goesWith {t : Topology} {except : List String} (distinct : kinds.Nodup)
    (serves : ∀ d ∈ t.modules, c.ServesKinds kinds d.inst)
    (once : ∀ d ∈ t.modules, c.reach d.inst = 1) (goes : GoesWith kinds except t.flows)
    {queue : String} (other : stem queue ∉ except) {w r : Wire}
    (writes : w ∈ t.wiresAt .output queue) (reads : r ∈ t.wiresAt .input queue) :
    c.Precedes w.owner.inst r.owner.inst := by
  have writer := (Topology.owner_of_mem_wiresAt writes).1
  have reader := (Topology.owner_of_mem_wiresAt reads).1
  refine ⟨once _ writer, once _ reader, ?_⟩
  intro i j d e atFirst atSecond reachesFirst reachesSecond
  rw [(serves _ writer).position distinct atFirst reachesFirst,
    (serves _ reader).position distinct atSecond reachesSecond]
  have output := Topology.mem_flows writes
  have input := Topology.mem_flows reads
  exact (goes _ output _ input rfl rfl rfl other :)

end Command

namespace FakeReadout

/-- The stems of the modules in the order in which they stop. -/
def stopKinds (f : FakeReadout) : List String :=
  "fake_source" :: "datahandler_" :: if f.softwareTpg then ["tp_datahandler_"] else []

/-- A readout with one link of each sort. -/
def oneLink (softwareTpg : Bool) : FakeReadout :=
  { standard with tpLinks := 1, softwareTpg := softwareTpg }

theorem flows_dataHandler (f : FakeReadout) (i : Nat) :
    (f.dataHandler i).flows = ((oneLink f.softwareTpg).dataHandler 0).flows := by
  cases software : f.softwareTpg <;>
    simp (disch := decide) only [DaqModule.flows, dataHandler, dataHandlerConnections,
      handlerConnections, oneLink, software, stem_numbered, List.map_append, List.map_cons,
      List.map_nil, Connection.input, Connection.output, if_true, Bool.false_eq_true, if_false]

theorem flows_tpHandler (i : Nat) : (tpHandler i).flows = (tpHandler 0).flows := by
  simp (disch := decide) only [DaqModule.flows, tpHandler, tpHandlerConnections,
    handlerConnections, stem_numbered, List.map_cons, List.map_nil, Connection.input,
    Connection.output]

theorem flows_source (f : FakeReadout) (softwareTpg : Bool) :
    f.source.flows ⊆ (oneLink softwareTpg).source.flows := by
  have same : (oneLink softwareTpg).source = (oneLink true).source := rfl
  have inst : f.source.inst = "fake_source" := rfl
  intro flow member
  obtain ⟨c, output, rfl⟩ := List.mem_map.mp member
  rw [same, inst]
  rcases List.mem_append.mp output with data | tp
  · obtain ⟨i, _, rfl⟩ := List.mem_map.mp data
    simp (disch := decide) only [Connection.output, stem_numbered]
    decide +kernel
  · obtain ⟨i, _, rfl⟩ := List.mem_map.mp tp
    simp (disch := decide) only [Connection.output, stem_numbered]
    decide +kernel

theorem flows_subset (f : FakeReadout) :
    f.plan.topology.flows ⊆ (oneLink f.softwareTpg).plan.topology.flows := by
  have first : 0 ∈ (oneLink f.softwareTpg).dataIndices := List.mem_range.mpr Nat.zero_lt_one
  intro flow member
  obtain ⟨d, here, connection⟩ := List.mem_flatMap.mp member
  refine List.mem_flatMap.mpr ?_
  revert connection
  refine of_mem_modules ?source ?data ?software here
  case source =>
    intro connection
    exact ⟨_, source_mem _, f.flows_source _ connection⟩
  case data =>
    intro i _ connection
    exact ⟨_, dataHandler_mem first, f.flows_dataHandler i ▸ connection⟩
  case software =>
    intro i number connection
    have software := (mem_softwareIndices.mp number).1
    exact ⟨_, tpHandler_mem (mem_softwareIndices.mpr ⟨software, first⟩),
      flows_tpHandler i ▸ connection⟩

theorem stop_forKinds (f : FakeReadout) :
    List.Forall₂ (Address.ForKind ["fake_source"] (f.moduleFamilies.map (·.1))) f.stopKinds
      f.stop.targets := by
  have source : Address.ForKind ["fake_source"] ["datahandler_", "tp_datahandler_"] "fake_source"
      (.exact "fake_source") := .single (by decide) (by decide)
  have data : Address.ForKind ["fake_source"] ["datahandler_", "tp_datahandler_"] "datahandler_"
      (.pattern .dataHandlers) := .family rfl (by decide) (by decide)
  have tp : Address.ForKind ["fake_source"] ["datahandler_", "tp_datahandler_"] "tp_datahandler_"
      (.pattern .tpHandlers) := .family rfl (by decide) (by decide)
  rw [stop_targets]
  cases software : f.softwareTpg <;>
    simp [stopKinds, handlers, software, moduleFamilies, source, data, tp]

theorem oneLink_goesWith (softwareTpg : Bool) :
    GoesWith (oneLink softwareTpg).stopKinds [] (oneLink softwareTpg).plan.topology.flows := by
  cases softwareTpg <;> decide +kernel

theorem stop_precedes (f : FakeReadout) {queue : String} {w r : Wire}
    (writes : w ∈ f.plan.topology.wiresAt .output queue)
    (reads : r ∈ f.plan.topology.wiresAt .input queue) :
    f.stop.Precedes w.owner.inst r.owner.inst := by
  have name {d : DaqModule} (member : d ∈ f.plan.topology.modules) :
      d.inst ∈ f.plan.topology.moduleNames := List.mem_map_of_mem member
  have distinct : f.stopKinds.Nodup := by
    unfold stopKinds
    split <;> decide
  have goes : GoesWith f.stopKinds [] f.plan.topology.flows :=
    (oneLink_goesWith f.softwareTpg).mono f.flows_subset
  refine Command.precedes_of_goesWith distinct ?_ (fun d member => stop_reach (name member)) goes
    List.not_mem_nil writes reads
  intro d member
  exact Command.servesKinds_of_forKinds f.stop_forKinds f.distinct_modules
    (f.moduleNames_eq ▸ name member)

end FakeReadout

namespace MiniDaq

/-- The stems of the modules in the order in which they stop. -/
def stopKinds : List String :=
  ["tde", "rqg", "fake_source", "datahandler_", "ffr", "datawriter", "data_recorder_"]

/-- The queues that lead back to the trigger. -/
def feedbackQueues : List String := ["token_q", "time_sync_q"]

def oneLink : MiniDaq := { standard with dataLinks := 1 }

theorem flows_dataHandler (i : Nat) : (dataHandler i).flows = (dataHandler 0).flows := by
  simp (disch := decide) only [DaqModule.flows, dataHandler, handlerConnections, stem_numbered,
    List.map_cons, List.map_nil, Connection.input, Connection.output]

theorem flows_recorder (i : Nat) : (recorder i).flows = (recorder 0).flows := by
  simp (disch := decide) only [DaqModule.flows, recorder, recorderConnections, stem_numbered,
    List.map_cons, List.map_nil, Connection.input]

theorem flows_source (m : MiniDaq) : m.source.flows ⊆ oneLink.source.flows := by
  have inst : m.source.inst = "fake_source" := rfl
  intro flow member
  obtain ⟨c, output, rfl⟩ := List.mem_map.mp member
  obtain ⟨i, _, rfl⟩ := List.mem_map.mp output
  simp (disch := decide) only [inst, Connection.output, stem_numbered]
  decide +kernel

theorem flows_request (m : MiniDaq) : m.request.flows ⊆ oneLink.request.flows := by
  have inst : m.request.inst = "rqg" := rfl
  intro flow member
  obtain ⟨c, connection, rfl⟩ := List.mem_map.mp member
  rw [inst]
  rcases List.mem_cons.mp connection with rfl | output
  · decide +kernel
  · rcases List.mem_cons.mp output with rfl | output
    · decide +kernel
    · obtain ⟨i, _, rfl⟩ := List.mem_map.mp output
      simp (disch := decide) only [Connection.output, stem_numbered]
      decide +kernel

theorem flows_subset (m : MiniDaq) : m.plan.topology.flows ⊆ oneLink.plan.topology.flows := by
  have first : 0 ∈ oneLink.indices := List.mem_range.mpr Nat.zero_lt_one
  intro flow member
  obtain ⟨d, here, connection⟩ := List.mem_flatMap.mp member
  refine List.mem_flatMap.mpr ?_
  revert connection
  refine of_mem_modules ?trigger ?request ?fragments ?writer ?source ?handler ?recorder here
  case trigger => exact fun connection => ⟨_, single_mem_modules (by simp [singles]), connection⟩
  case request =>
    intro connection
    exact ⟨_, single_mem_modules (by simp [singles]), m.flows_request connection⟩
  case fragments => exact fun connection => ⟨_, single_mem_modules (by simp [singles]), connection⟩
  case writer => exact fun connection => ⟨_, single_mem_modules (by simp [singles]), connection⟩
  case source =>
    intro connection
    exact ⟨_, single_mem_modules (by simp [singles]), m.flows_source connection⟩
  case handler =>
    intro i _ connection
    exact ⟨_, dataHandler_mem first, flows_dataHandler i ▸ connection⟩
  case recorder =>
    intro i _ connection
    exact ⟨_, recorder_mem first, flows_recorder i ▸ connection⟩

theorem stop_forKinds (m : MiniDaq) :
    List.Forall₂ (Address.ForKind moduleSingles (m.moduleFamilies.map (·.1))) stopKinds
      stop.targets := by
  have apart : ∀ kind ∈ moduleSingles, kind ∉ ["datahandler_", "data_recorder_"] := by decide
  have single {kind : String} (member : kind ∈ moduleSingles) :
      Address.ForKind moduleSingles ["datahandler_", "data_recorder_"] kind (.exact kind) :=
    .single member (apart kind member)
  have data : Address.ForKind moduleSingles ["datahandler_", "data_recorder_"] "datahandler_"
      (.pattern .dataHandlers) := .family rfl (by decide) (by decide)
  have recorders : Address.ForKind moduleSingles ["datahandler_", "data_recorder_"]
      "data_recorder_" (.pattern .recorders) := .family rfl (by decide) (by decide)
  rw [stop_targets]
  exact .cons (single (by decide)) <| .cons (single (by decide)) <| .cons (single (by decide)) <|
    .cons data <| .cons (single (by decide)) <| .cons (single (by decide)) <| .cons recorders .nil

theorem oneLink_goesWith :
    GoesWith stopKinds feedbackQueues oneLink.plan.topology.flows := by
  decide +kernel

theorem stem_notMem_feedbackQueues {m : MiniDaq} {q : Queue} (member : q ∈ m.plan.topology.queues)
    (other : q.inst ∉ feedbackQueues) : stem q.inst ∉ feedbackQueues := by
  intro back
  have named : q.inst ∈ roster queueSingles m.queueFamilies :=
    m.queueNames_eq ▸ List.mem_map_of_mem (m.plan.queues_perm.mem_iff.mp member)
  have apart : stem q.inst ∉ m.queueFamilies.map (·.1) :=
    List.disjoint_left.mp (by simp [feedbackQueues, queueFamilies]) back
  exact other (Text.eq_of_stem m.distinct_queues apart named rfl ▸ back)

theorem stop_precedes {m : MiniDaq} {q : Queue} (member : q ∈ m.plan.topology.queues)
    (other : q.inst ∉ feedbackQueues) {w r : Wire}
    (writes : w ∈ m.plan.topology.wiresAt .output q.inst)
    (reads : r ∈ m.plan.topology.wiresAt .input q.inst) :
    stop.Precedes w.owner.inst r.owner.inst := by
  have name {d : DaqModule} (member : d ∈ m.plan.topology.modules) :
      d.inst ∈ m.plan.topology.moduleNames := List.mem_map_of_mem member
  refine Command.precedes_of_goesWith (by decide) ?_ (fun d member => stop_reach (name member))
    (oneLink_goesWith.mono m.flows_subset) (stem_notMem_feedbackQueues member other) writes reads
  intro d member
  exact Command.servesKinds_of_forKinds m.stop_forKinds m.distinct_modules
    (m.moduleNames_eq ▸ name member)

end MiniDaq

/-- In generated sequences of both applications `stop` follows the flow: whatever writes a queue is
stopped by an earlier entry than whatever reads it. Only the queues that lead back to the trigger of
the mini DAQ are excepted. -/
theorem stop_upstream_first :
    (∀ (f : FakeReadout) (r : Registry) (s : CommandSequence), f.generate r = .ok s →
      ∃ t stop, s.topology? = some t ∧ s.commands.filter (·.id = "stop") = [stop] ∧
        ∀ q ∈ t.queues, ∀ w ∈ t.wiresAt .output q.inst, ∀ v ∈ t.wiresAt .input q.inst,
          stop.Precedes w.owner.inst v.owner.inst) ∧
    ∀ (m : MiniDaq) (r : Registry) (s : CommandSequence), m.generate r = .ok s →
      ∃ t stop, s.topology? = some t ∧ s.commands.filter (·.id = "stop") = [stop] ∧
        ∀ q ∈ t.queues, q.inst ∉ ["token_q", "time_sync_q"] →
          ∀ w ∈ t.wiresAt .output q.inst, ∀ v ∈ t.wiresAt .input q.inst,
            stop.Precedes w.owner.inst v.owner.inst := by
  constructor
  · intro f r s generated
    obtain rfl := FakeReadout.eq_of_generate generated
    refine ⟨f.plan.topology, f.stop, rfl, rfl, ?_⟩
    exact fun q _ w writes v reads => f.stop_precedes writes reads
  · intro m r s generated
    obtain ⟨tokens, _, rfl⟩ := MiniDaq.eq_of_generate generated
    refine ⟨m.plan.topology, MiniDaq.stop, rfl, ?_, ?_⟩
    · cases recorded : m.recordSeconds <;>
        simp [MiniDaq.commands, recorded, Command.ofTopology, Command.ofPayloads,
          Command.withStates, MiniDaq.conf, MiniDaq.start, MiniDaq.stop, MiniDaq.pause,
          MiniDaq.resume, MiniDaq.record, MiniDaq.scrap]
    · exact fun q member other w writes v reads => MiniDaq.stop_precedes member other writes reads

/-- In the mini DAQ with two links the request generator stops before the data handlers, and these
stop before the fragment receiver. -/
theorem standard_stop_upstream_first :
    (∃ s t stop, FakeReadout.standard.generate .builtin = .ok s ∧ s.topology? = some t ∧
      s.commands.filter (·.id = "stop") = [stop] ∧ stop.Precedes "fake_source" "datahandler_0") ∧
    ∃ s t stop, MiniDaq.standard.generate .builtin = .ok s ∧ s.topology? = some t ∧
      s.commands.filter (·.id = "stop") = [stop] ∧ stop.Precedes "rqg" "datahandler_1" ∧
        stop.Precedes "datahandler_1" "ffr" := by
  constructor
  · obtain ⟨s, generated⟩ := FakeReadout.standard.generate_builtin_ok (by decide) (by decide)
    obtain ⟨t, stop, carried, found, precedes⟩ := stop_upstream_first.1 _ _ s generated
    obtain rfl := FakeReadout.eq_of_generate generated
    obtain rfl : FakeReadout.standard.plan.topology = t := Option.some.inj carried
    obtain ⟨q, member, w, writes, v, reads, first, second⟩ :
        ∃ q ∈ FakeReadout.standard.plan.queues,
          ∃ w ∈ FakeReadout.standard.plan.topology.wiresAt .output q.inst,
          ∃ v ∈ FakeReadout.standard.plan.topology.wiresAt .input q.inst,
            w.owner.inst = "fake_source" ∧ v.owner.inst = "datahandler_0" := by decide +kernel
    have declared := (Plan.queues_perm _).mem_iff.mpr member
    exact ⟨_, _, stop, generated, carried, found,
      first ▸ second ▸ precedes q declared w writes v reads⟩
  · have split : TokenSplit.ofCount? MiniDaq.standard.tokenCount = some ⟨10, 0⟩ := by decide
    obtain ⟨s, generated⟩ := MiniDaq.generate_builtin_ok split
    obtain ⟨t, stop, carried, found, precedes⟩ := stop_upstream_first.2 _ _ s generated
    obtain ⟨tokens, _, rfl⟩ := MiniDaq.eq_of_generate generated
    obtain rfl : MiniDaq.standard.plan.topology = t := Option.some.inj carried
    have along (first second : String) (linked :
        ∃ q ∈ MiniDaq.standard.plan.queues, q.inst ∉ ["token_q", "time_sync_q"] ∧
          ∃ w ∈ MiniDaq.standard.plan.topology.wiresAt .output q.inst,
          ∃ v ∈ MiniDaq.standard.plan.topology.wiresAt .input q.inst,
            w.owner.inst = first ∧ v.owner.inst = second) : stop.Precedes first second := by
      obtain ⟨q, member, other, w, writes, v, reads, rfl, rfl⟩ := linked
      exact precedes q ((Plan.queues_perm _).mem_iff.mpr member) other w writes v reads
    exact ⟨_, _, stop, generated, carried, found, along _ _ (by decide +kernel),
      along _ _ (by decide +kernel)⟩

end ReadoutControl
