import ReadoutControl.Command.Basic
import ReadoutControl.Proofs.Json.Reading
import ReadoutControl.Proofs.Topology.Shape

set_option autoImplicit false

/-!
The trees that are read as a command. Its data is tried as a topology first. Data that is none, by
as little as one field of one queue, is still read as payloads if it has a list of those, and its
queues are then skipped with all other keys.
-/

namespace ReadoutControl

open Json Json.Node

theorem RunState.read?_eq_some_iff {node : Json.Node} {s : RunState} :
    RunState.read? node = some s ↔ Chooses s.name node := by
  apply choice?_eq_some_iff
  · intro s
    cases s <;> decide
  · decide

/-- A state that is named, or left out. -/
abbrev RunState.Given : Option Json.Node → Option RunState → Prop :=
  Optionally fun node s => Chooses s.name node

inductive Addressed.Written (e : Addressed) : Json.Node → Prop
  | fields {node : Json.Node} {target : String} {payload : Option Json.Node} :
    IsRecord ["match", "data"] node [some (.str target), payload] →
    Address.ofText? target = some e.target →
    Optionally (fun node v => node.value? = some v) payload e.payload → Written e node

inductive CommandBody.Written : CommandBody → Json.Node → Prop
  | topology {t : Topology} {node : Json.Node} : t.Written node → Written (.topology t) node
  /-- Payloads stand in a tree that is no topology, whatever it has besides. -/
  | payloads {entries : List Addressed} {node : Json.Node} {items : List Json.Node} :
    (∀ t : Topology, ¬ t.Written node) → IsRecord ["modules"] node [some (.arr items)] →
    List.Forall₂ Addressed.Written entries items → Written (.payloads entries) node

inductive Command.Written (c : Command) : Json.Node → Prop
  | fields {node data : Json.Node} {entry exit : Option Json.Node} :
    IsRecord ["id", "entry_state", "exit_state", "data"] node
      [some (.str c.id), entry, exit, some data] →
    RunState.Given entry c.entry → RunState.Given exit c.exit →
    data.value?.isSome = true → c.body.Written data → Written c node

theorem Addressed.read?_eq_some_iff {node : Json.Node} {e : Addressed} :
    Addressed.read? node = some e ↔ e.Written node := by
  simp only [Addressed.read?, Option.bind_eq_bind, Option.bind_eq_some_iff, Option.pure_def,
    Option.some.injEq, required?_eq_some_iff, optional?_eq_some_iff, Address.read?,
    text?_eq_some_iff]
  constructor
  · rintro ⟨record, found, _, ⟨_, target, _, rfl, parsed⟩, _, payload, rfl⟩
    refine .fields ((record?_iff (by simp)).mp ⟨record, found, ?_⟩) parsed payload
    simp [target]
  · rintro ⟨shape, parsed, payload⟩
    obtain ⟨record, found, lookups⟩ := (record?_iff (by simp)).mpr shape
    simp only [List.map_cons, List.map_nil, List.cons.injEq, and_true] at lookups
    obtain ⟨target, rfl⟩ := lookups
    exact ⟨record, found, _, ⟨_, target, _, rfl, parsed⟩, _, payload, rfl⟩

namespace CommandBody

theorem readPayloads?_eq_some_iff {node : Json.Node} {entries : List Addressed} :
    readPayloads? node = some entries ↔
      ∃ items, IsRecord ["modules"] node [some (.arr items)] ∧
        List.Forall₂ Addressed.Written entries items := by
  simp only [readPayloads?, Option.bind_eq_bind, Option.bind_eq_some_iff, required?_eq_some_iff,
    list?_eq_some_iff, Addressed.read?_eq_some_iff]
  constructor
  · rintro ⟨record, found, _, modules, items, rfl, each⟩
    refine ⟨items, (record?_iff (by simp)).mp ⟨record, found, ?_⟩, each⟩
    simp [modules]
  · rintro ⟨items, shape, each⟩
    obtain ⟨record, found, lookups⟩ := (record?_iff (by simp)).mpr shape
    exact ⟨record, found, _, by simpa using lookups, items, rfl, each⟩

theorem read?_eq_some_iff {node : Json.Node} {body : CommandBody} :
    CommandBody.read? node = some body ↔ node.value?.isSome = true ∧ body.Written node := by
  have whole : ¬ node.value?.isNone = true ↔ node.value?.isSome = true := by
    rw [Option.isNone_iff_eq_none, Option.isSome_iff_ne_none]
  rw [CommandBody.read?, Option.ite_none_left_eq_some, whole]
  apply and_congr_right
  intro _
  cases first : Topology.read? node with
  | some t =>
    have said := Topology.read?_eq_some_iff.mp first
    constructor
    · intro same
      obtain rfl := Option.some.inj same
      exact .topology said
    · rintro (other | ⟨unsaid, _, _⟩)
      · exact congrArg (Option.map CommandBody.topology)
          (first.symm.trans (Topology.read?_eq_some_iff.mpr other))
      · exact absurd said (unsaid t)
  | none =>
    have unsaid (t : Topology) : ¬ t.Written node := by
      intro said
      exact nomatch first.symm.trans (Topology.read?_eq_some_iff.mpr said)
    rw [Option.map_eq_some_iff]
    simp only [readPayloads?_eq_some_iff]
    constructor
    · rintro ⟨entries, ⟨items, shape, each⟩, rfl⟩
      exact .payloads unsaid shape each
    · rintro (said | ⟨_, shape, each⟩)
      · exact absurd said (unsaid _)
      · exact ⟨_, ⟨_, shape, each⟩, rfl⟩

end CommandBody

namespace Command

theorem read?_eq_some_iff {node : Json.Node} {c : Command} :
    Command.read? node = some c ↔ c.Written node := by
  simp only [Command.read?, Option.bind_eq_bind, Option.bind_eq_some_iff, Option.pure_def,
    Option.some.injEq, required?_eq_some_iff, optional?_eq_some_iff, text?_eq_some_iff,
    RunState.read?_eq_some_iff, CommandBody.read?_eq_some_iff]
  constructor
  · rintro ⟨record, found, _, ⟨_, id, rfl⟩, _, entry, _, exit, _, ⟨_, data, whole, body⟩, rfl⟩
    refine .fields ((record?_iff (by simp)).mp ⟨record, found, ?_⟩) entry exit whole body
    simp [id, data]
  · rintro ⟨shape, entry, exit, whole, body⟩
    obtain ⟨record, found, lookups⟩ := (record?_iff (by simp)).mpr shape
    simp only [List.map_cons, List.map_nil, List.cons.injEq, and_true] at lookups
    obtain ⟨id, rfl, rfl, data⟩ := lookups
    exact ⟨record, found, _, ⟨_, id, rfl⟩, _, entry, _, exit, _, ⟨_, data, whole, body⟩, rfl⟩

/-- A text is read as a command with a topology just if its data is that topology, and it is
refused if its data is neither a topology nor payloads. -/
theorem read?_text_iff {text : String} {node data : Json.Node} {id entry exit : Option Json.Node}
    (tree : Json.Node.ofText? text.toList = some node)
    (shape : IsRecord ["id", "entry_state", "exit_state", "data"] node
      [id, entry, exit, some data]) (c : Command) :
    (Json.Node.ofText? text.toList).bind Command.read? = some c ↔
      id = some (.str c.id) ∧ RunState.Given entry c.entry ∧ RunState.Given exit c.exit ∧
        data.value?.isSome = true ∧ c.body.Written data := by
  rw [tree, Option.bind_some, read?_eq_some_iff]
  constructor
  · rintro ⟨other, entry, exit, whole, body⟩
    obtain ⟨rfl, rfl, rfl, rfl⟩ := shape.values_eq (by simp) other
    exact ⟨rfl, entry, exit, whole, body⟩
  · rintro ⟨rfl, entry, exit, whole, body⟩
    exact .fields shape entry exit whole body

/-- The data of a command that lists some queues and no modules. -/
def listed (queues : List Json) : Json := .obj [("queues", .arr queues), ("modules", .arr [])]

def listing (queues : List Json) : Json := .obj [("id", .str "init"), ("data", listed queues)]

section Listing

variable {queues : List Json}

theorem ofText?_listing (fits : ∀ q ∈ queues, q.Fits Binary64.ReadsBack 1) :
    Json.Node.ofText? (listing queues).document.toList = some (listing queues).tree := by
  have rows : (Json.arr queues).Fits Binary64.ReadsBack 2 := .arr fits
  have data : (listed queues).Fits Binary64.ReadsBack 3 := .obj (by simp [rows, Fits.arr])
  have whole : (listing queues).Fits Binary64.ReadsBack 4 := .obj (by simp [data])
  exact ofText?_document (whole.deeper (by decide))

theorem isRecord_listing (queues : List Json) :
    IsRecord ["id", "entry_state", "exit_state", "data"] (listing queues).tree
      [some (.str "init"), none, none, some (listed queues).tree] :=
  isRecord_tree (by simp) (by simp)

theorem isRecord_listed (queues : List Json) :
    IsRecord ["queues", "modules"] (listed queues).tree
      [some (.arr (queues.map tree)), some (.arr [])] := by
  rw [← tree_arr]
  exact isRecord_tree (by simp) (by simp)

theorem listed_tree (queues : List Json) :
    ∃ fields, (listed queues).tree = .obj fields ∧
      fields.lookup "queues" = some (.arr (queues.map tree)) := by
  refine ⟨_, tree_obj _, ?_⟩
  rw [lookup_sortFields_of_nodup (by simp), lookup_map, ← tree_arr]
  rfl

/-- One queue that cannot be read is enough for a command without any. -/
theorem read?_listing_of_unread {q : Json} (member : q ∈ queues)
    (unread : ∀ r : Queue, ¬ r.Written q.tree) :
    Command.read? (listing queues).tree = some (ofPayloads "init" []) := by
  rw [read?_eq_some_iff]
  have modules : IsRecord ["modules"] (listed queues).tree [some (.arr [])] :=
    isRecord_tree (by simp) (by simp)
  refine .fields (isRecord_listing queues) .absent .absent (by simp [value?_tree])
    (.payloads ?_ modules .nil)
  rintro t ⟨shape, each, _⟩
  have same := (isRecord_listed queues).values_eq (by simp) shape
  simp only [List.cons.injEq, Option.some.injEq, Node.arr.injEq] at same
  obtain ⟨rfl, -⟩ := same
  obtain ⟨r, -, read⟩ := exists_of_forall₂_of_mem each (List.mem_map_of_mem member)
  exact unread r read

end Listing

/-- The items of an array are a record too. -/
theorem read?_text_queue :
    (Json.Node.ofText? (listing [.arr [.str "q", .str "StdDeQueue", .int 9]]).document.toList).bind
      Command.read? = some ⟨"init", none, none, .topology ⟨[⟨"q", .deque, 9⟩], []⟩⟩ := by
  have row : (Json.arr [.str "q", .str "StdDeQueue", .int 9]).Fits Binary64.ReadsBack 1 :=
    .arr (by simp [Fits.int])
  have queue : Queue.Written ⟨"q", .deque, 9⟩ (Json.arr [.str "q", .str "StdDeQueue", .int 9]).tree :=
    .fields (.array rfl) .text
  have data : Topology.Written ⟨[⟨"q", .deque, 9⟩], []⟩
      (listed [.arr [.str "q", .str "StdDeQueue", .int 9]]).tree :=
    .fields (isRecord_listed _) (.cons queue .nil) .nil
  exact (read?_text_iff (ofText?_listing (by simp [row])) (isRecord_listing _) _).mpr
    ⟨rfl, .absent, .absent, by simp [value?_tree], .topology data⟩

/-- A queue without a capacity is none, and a command that lists it is read without queues. -/
theorem read?_text_no_queue :
    ∃ node data queue c, Json.Node.ofText? (listing [.obj [("inst", .str "q"),
      ("kind", .str "FollySPSCQueue")]]).document.toList = some node ∧
        IsRecord ["id", "entry_state", "exit_state", "data"] node
          [some (.str "init"), none, none, some (.obj data)] ∧
        data.lookup "queues" = some (.arr [queue]) ∧ Command.read? node = some c ∧
        c.topology? = none ∧ c.addressed = [] := by
  have row : (Json.obj [("inst", .str "q"), ("kind", .str "FollySPSCQueue")]).Fits
      Binary64.ReadsBack 1 := .obj (by simp)
  have unread (r : Queue) : ¬ r.Written
      (Json.obj [("inst", .str "q"), ("kind", .str "FollySPSCQueue")]).tree := by
    rintro ⟨shape, _⟩
    have same := (isRecord_tree (by simp) (by simp)).values_eq (by simp) shape
    simp [lookup_cons] at same
  obtain ⟨data, object, queues⟩ := listed_tree [.obj [("inst", .str "q"),
    ("kind", .str "FollySPSCQueue")]]
  refine ⟨_, data, _, _, ofText?_listing (by simp [row]), ?_, queues,
    read?_listing_of_unread (List.mem_singleton_self _) unread, rfl, rfl⟩
  rw [← object]
  exact isRecord_listing _

end Command

end ReadoutControl
