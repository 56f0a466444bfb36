import ReadoutControl.Proofs.Application.Numbering
import ReadoutControl.Proofs.MiniDaq.Configuration
import ReadoutControl.Proofs.MiniDaq.Flow
import ReadoutControl.Proofs.MiniDaq.Generation

set_option autoImplicit false

/-!
Topology and configuration of the mini DAQ number the links alike. The queue on which data of a link
is requested is read by the module that is configured with the number of the link, which takes its
raw data from the source's output of that number and has a recorder of its own.
-/

namespace ReadoutControl.MiniDaq

open Text (numbered roster)

/-- The module serves the link. It alone is configured with the number of the link, and it alone
reads the queue on which data of the link is requested. -/
structure ServesLink (t : Topology) (conf : Command) (l : Nat) (queue : String)
    (handler : DaqModule) : Prop where
  configured : ∀ d ∈ t.modules,
    conf.setting? d.inst "link_number" = some (.ofNat l) ↔ d = handler
  requested : ∃ w, t.wiresAt .output queue = [w] ∧ w.owner.inst = "rqg"
  reads : ∃ c, t.wiresAt .input queue = [⟨handler, c⟩]
  raw : ∃ source raw out, t.module? "fake_source" = some source ∧
    handler.connections.filter (·.name = "raw_input") = [raw] ∧
    source.connections.filter (·.name = numbered "output_" l) = [out] ∧
    raw.dir = .input ∧ out.dir = .output ∧ raw.queue = out.queue
  recorded : ∃ snb recorder c, handler.connections.filter (·.name = "snb") = [snb] ∧
    snb.dir = .output ∧ t.wiresAt .input snb.queue = [⟨recorder, c⟩] ∧
    recorder.plugin = "DataRecorder"

/-- Topology and configuration agree on the links, which are numbered from zero. -/
structure LinksAgree (t : Topology) (conf : Command) (n : Nat) : Prop where
  links : conf.setting? "tde" "links" = some (.arr ((List.range n).map .ofNat))
  min_links : conf.setting? "tde" "min_links_in_request" = some (.ofNat n)
  max_links : conf.setting? "tde" "max_links_in_request" = some (.ofNat n)
  link_ids : conf.setting? "fake_source" "link_ids" = some (.arr ((List.range n).map .ofNat))
  routes : ∃ routes : List Json, conf.setting? "rqg" "map" = some (.arr routes) ∧
    routes.map (·.field? "link") = (List.range n).map (fun l => some (.ofNat l)) ∧
    ∀ l < n, ∃ route queue handler, routes[l]? = some route ∧
      route.field? "queueinstance" = some (.str queue) ∧ ServesLink t conf l queue handler

variable {m : MiniDaq} {tokens : TokenSplit} {l : Nat}

theorem lt_size_of_mem {i : Nat} (number : i ∈ m.indices) : i < UInt32.size :=
  Nat.lt_trans (List.mem_range.mp number) m.dataLinks.toNat_lt_size

theorem toNat_number {i : Nat} (number : i ∈ m.indices) : (UInt32.ofNat i).toNat = i :=
  UInt32.toNat_ofNat_of_lt' (lt_size_of_mem number)

theorem numbers_eq (m : MiniDaq) :
    (Json.arr ((m.indices.map UInt32.ofNat).map fun n => .ofNat n.toNat)).sorted =
      .arr ((List.range m.dataLinks.toNat).map .ofNat) :=
  Json.sorted_links fun _ number => lt_size_of_mem number

/-- Only a data handler is configured with a link number, and each with its own. -/
theorem link_number_iff {d : DaqModule} (member : d ∈ m.plan.topology.modules) (l : Nat) :
    (m.conf tokens).setting? d.inst "link_number" = some (.ofNat l) ↔ d = dataHandler l := by
  have other {e : DaqModule} (plugin : e.plugin ≠ "DataLinkHandler")
      (unset : (m.conf tokens).setting? e.inst "link_number" = none) :
      (m.conf tokens).setting? e.inst "link_number" = some (.ofNat l) ↔ e = dataHandler l := by
    rw [unset]
    refine ⟨fun absent => by contradiction, ?_⟩
    rintro rfl
    exact absurd rfl plugin
  refine of_mem_modules ?trigger ?request ?fragments ?writer ?source ?handler ?recorder member
  case trigger => exact other (by decide) (m.trigger_setting tokens "link_number")
  case request => exact other (by simp [request]) (m.request_setting tokens "link_number")
  case fragments => exact other (by decide) (m.fragments_setting tokens "link_number")
  case writer => exact other (by decide) (m.writer_setting tokens "link_number")
  case source => exact other (by simp [source]) (m.source_setting tokens "link_number")
  case handler =>
    intro i number
    have set : (m.conf tokens).setting? (dataHandler i).inst "link_number" =
        some (.ofNat (UInt32.ofNat i).toNat) := m.dataHandler_setting tokens "link_number" number
    rw [set, toNat_number number, Option.some.injEq, Json.ofNat_inj]
    constructor
    · rintro rfl
      rfl
    · intro same
      exact ((Text.numbered_inj (by decide) (by decide)).mp (congrArg DaqModule.inst same)).2
  case recorder =>
    intro i number
    exact other (by simp [recorder]) (m.recorder_setting tokens "link_number" number)

/-- Requests for a link are written by the request generator. -/
theorem wiresAt_requests (number : l ∈ m.indices) :
    m.plan.topology.wiresAt .output (numbered "data_requests_" l) =
      [⟨m.request, .output (numbered "data_request_" l ++ "_output_queue")
        (numbered "data_requests_" l)⟩] := by
  have declared : numbered "data_requests_" l ∈ roster ownSingles m.queueFamilies :=
    Text.numbered_mem_roster (by simp [queueFamilies]) number
  have connection : .output (numbered "data_request_" l ++ "_output_queue")
      (numbered "data_requests_" l) ∈ m.requestOutputs := List.mem_map.mpr ⟨l, number, rfl⟩
  apply Topology.wiresAt_eq_singleton (written_once declared)
  apply Topology.mem_wiresAt_of_mem (single_mem_modules (by simp [singles]))
  rw [request, requestConnections_eq]
  exact List.mem_append_right _ connection

/-- A numbered queue is read by the module that connects to it. -/
theorem wiresAt_input {d : DaqModule} {name stem : String} (member : d ∈ m.plan.topology.modules)
    (family : (stem, m.indices) ∈ m.queueFamilies) (number : l ∈ m.indices)
    (connection : .input name (numbered stem l) ∈ d.connections) :
    m.plan.topology.wiresAt .input (numbered stem l) = [⟨d, .input name (numbered stem l)⟩] :=
  Topology.wiresAt_eq_singleton (read_once (Text.numbered_mem_roster family number))
    (Topology.mem_wiresAt_of_mem member connection)

theorem source_output (number : l ∈ m.indices) :
    m.source.connections.filter (·.name = numbered "output_" l) =
      [.output (numbered "output_" l) (numbered "wib_fake_link_" l)] :=
  Connection.filter_numbered (by decide) m.nodup_indices number

theorem servesLink (number : l ∈ m.indices) :
    ServesLink m.plan.topology (m.conf tokens) l (numbered "data_requests_" l) (dataHandler l) where
  configured _ member := link_number_iff member l
  requested := ⟨_, wiresAt_requests number, rfl⟩
  reads := ⟨.input "requests" (numbered "data_requests_" l), wiresAt_input (dataHandler_mem number)
    (by simp [queueFamilies]) number (by simp [dataHandler, handlerConnections])⟩
  raw := by
    refine ⟨m.source, .input "raw_input" (numbered "wib_fake_link_" l),
      .output (numbered "output_" l) (numbered "wib_fake_link_" l), ?_, rfl,
      source_output number, rfl, rfl, rfl⟩
    rw [Topology.module?, modules_eq]
    rfl
  recorded := ⟨.output "snb" (numbered "snb_link_" l), recorder l, _, rfl, rfl,
    wiresAt_input (recorder_mem number) (by simp [queueFamilies]) number
      (List.mem_singleton_self _), rfl⟩

/-- The entry of a link in the map of the request generator. -/
def route (l : Nat) : RequestRoute := ⟨0, .ofNat l, numbered "data_requests_" l⟩

theorem routes_eq (m : MiniDaq) (tokens : TokenSplit) :
    (m.conf tokens).setting? "rqg" "map" =
      some (.arr (m.indices.map fun i => (route i).toJson.sorted)) := by
  have routes : m.requestConf.toJson.field? "map" = some (.arr (m.requestConf.routes.map
      RequestRoute.toJson)) := rfl
  rw [request_setting, routes, Option.map_some, Json.sorted, Json.sortedItems_eq, requestConf,
    List.map_map, List.map_map]
  rfl

theorem conf_linksAgree (m : MiniDaq) (tokens : TokenSplit) :
    LinksAgree m.plan.topology (m.conf tokens) m.dataLinks.toNat where
  links := by
    rw [trigger_setting]
    exact congrArg some m.numbers_eq
  min_links := m.trigger_setting tokens "min_links_in_request"
  max_links := m.trigger_setting tokens "max_links_in_request"
  link_ids := by
    rw [source_setting]
    exact congrArg some m.numbers_eq
  routes := by
    refine ⟨_, m.routes_eq tokens, ?_, ?_⟩
    · rw [List.map_map]
      apply List.map_congr_left
      intro i number
      rw [Function.comp_apply, Json.field?_sorted (RequestRoute.nodup_keys _)]
      exact congrArg (some <| Json.ofNat ·) (toNat_number number)
    · intro l small
      refine ⟨(route l).toJson.sorted, numbered "data_requests_" l, dataHandler l, ?_, ?_,
        servesLink (List.mem_range.mpr small)⟩
      · rw [List.getElem?_map, indices, List.getElem?_range small, Option.map_some]
      · rw [Json.field?_sorted (RequestRoute.nodup_keys _)]
        rfl

/-- Every generated mini DAQ has a topology and a configuration that agree on its links. -/
theorem generated_linksAgree {m : MiniDaq} {r : Registry} {s : CommandSequence}
    (generated : m.generate r = .ok s) :
    ∃ t conf, s.topology? = some t ∧ s.command? "conf" = some conf ∧
      LinksAgree t conf m.dataLinks.toNat := by
  obtain ⟨tokens, _, rfl⟩ := eq_of_generate generated
  exact ⟨_, _, rfl, rfl, m.conf_linksAgree tokens⟩

/-- The standard mini DAQ is generated with the builtin plugins, and its two links agree. -/
theorem standard_linksAgree : ∃ s t conf, standard.generate .builtin = .ok s ∧
    s.topology? = some t ∧ s.command? "conf" = some conf ∧ LinksAgree t conf 2 := by
  have split : TokenSplit.ofCount? standard.tokenCount = some ⟨10, 0⟩ := by decide
  obtain ⟨s, generated⟩ := generate_builtin_ok split
  obtain ⟨t, conf, agree⟩ := generated_linksAgree generated
  exact ⟨s, t, conf, generated, agree⟩

end ReadoutControl.MiniDaq
