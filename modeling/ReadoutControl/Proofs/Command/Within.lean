import ReadoutControl.Proofs.Command.Fitting
import ReadoutControl.Proofs.Command.Reading
import ReadoutControl.Proofs.Json.Shape
import ReadoutControl.Proofs.Json.Within

set_option autoImplicit false

/-!
A command that is read from a tree can be told from its text. Its payloads are in order and lie as
deep in what is written as they did in the tree.
-/

namespace ReadoutControl

open Json Json.Node

theorem Json.Node.Within.lookup {below : Nat} {record : List (String × Node)} {name : String}
    {node : Node} (each : ∀ field ∈ record, field.2.Within below)
    (found : record.lookup name = some node) : node.Within below :=
  each (name, node) (mem_of_lookup_eq_some found)

theorem Json.Node.Within.list? {α : Type} {read : Node → Option α} {depth : Nat} {node : Node}
    {xs : List α} (within : node.Within depth) (items : node.list? read = some xs) :
    ∃ below, depth = below + 1 ∧
      ∀ x ∈ xs, ∃ item : Node, item.Within below ∧ read item = some x := by
  obtain ⟨nodes, rfl, each⟩ := list?_eq_some_iff.mp items
  cases within with
  | @arr below _ within =>
    refine ⟨below, rfl, fun x member => ?_⟩
    obtain ⟨item, here, found⟩ := exists_of_forall₂_of_mem each.flip member
    exact ⟨item, within item here, found⟩

theorem Json.Node.value?_eq_null_iff {node : Node} : node.value? = some .null ↔ node = .null := by
  cases node <;> simp [value?]

namespace Addressed

theorem fields_of_read? {node : Node} {e : Addressed} (read : read? node = some e) :
    ∃ record, node.record? ["match", "data"] [] = some record ∧
      required? record "match" Address.read? = some e.target ∧
      optional? record "data" value? = some e.payload := by
  simp only [read?, Option.bind_eq_bind, Option.bind_eq_some_iff] at read
  obtain ⟨record, found, target, matched, payload, given, same⟩ := read
  obtain rfl := Option.some.inj same
  exact ⟨record, found, matched, given⟩

/-- What is read for an entry is not null and lies one level below it. -/
theorem portable_of_read? {node : Node} {e : Addressed} {depth : Nat} (within : node.Within depth)
    (read : read? node = some e) :
    e.Portable ∧ e.toJson.Fits (·.isFinite = true) depth := by
  obtain ⟨record, found, matched, given⟩ := fields_of_read? read
  obtain ⟨below, rfl, each⟩ := within.record? found
  obtain ⟨_, _, target⟩ := required?_eq_some_iff.mp matched
  obtain ⟨text, _, parsed⟩ := Option.bind_eq_some_iff.mp target
  have value : ∀ v ∈ e.payload, (v ≠ .null ∧ v.Ordered) ∧ v.Fits (·.isFinite = true) below := by
    intro v payload
    rw [Option.mem_def.mp payload, optional?_eq_some_iff] at given
    generalize field : record.lookup "data" = data at given
    cases given with
    | @value node _ some_node valued =>
      obtain ⟨fits, ordered⟩ := (Within.lookup each field).value? valued
      refine ⟨⟨?_, ordered⟩, fits⟩
      rintro rfl
      exact some_node (value?_eq_null_iff.mp valued)
  exact ⟨⟨Address.parsed_iff.mpr ⟨text, parsed⟩, fun v payload => (value v payload).1⟩,
    fits_toJson fun v payload => (value v payload).2⟩

end Addressed

/-- A body that is read from a tree lies as deep in what is written, where a topology has room. -/
theorem CommandBody.portable_of_read? {node : Node} {body : CommandBody} {depth : Nat}
    (within : node.Within depth) (room : 6 ≤ depth) (read : CommandBody.read? node = some body) :
    (∀ entries, body = payloads entries → ∀ e ∈ entries, e.Portable) ∧
      body.toJson.Fits (·.isFinite = true) depth := by
  obtain ⟨_, read⟩ := Option.ite_none_left_eq_some.mp read
  split at read
  · next t _ =>
    obtain rfl := Option.some.inj read
    have fits : t.toJson.Fits (·.isFinite = true) 6 := t.fits_toJson
    exact ⟨by rintro _ ⟨⟩, fits.deeper room⟩
  · obtain ⟨entries, listed, rfl⟩ := Option.map_eq_some_iff.mp read
    obtain ⟨record, found, modules⟩ := Option.bind_eq_some_iff.mp listed
    obtain ⟨below, rfl, each⟩ := within.record? found
    obtain ⟨items, field, entered⟩ := required?_eq_some_iff.mp modules
    obtain ⟨lower, rfl, sources⟩ := (Within.lookup each field).list? entered
    have sound : ∀ e ∈ entries, e.Portable ∧ e.toJson.Fits (·.isFinite = true) lower := by
      intro e member
      obtain ⟨item, inside, read⟩ := sources e member
      exact Addressed.portable_of_read? inside read
    refine ⟨?_, fits_payloads fun e member => (sound e member).2⟩
    rintro _ ⟨⟩ e member
    exact (sound e member).1

namespace Command

theorem fields_of_read? {node : Node} {c : Command} (read : read? node = some c) :
    ∃ record, node.record? ["id", "entry_state", "exit_state", "data"] [] = some record ∧
      optional? record "entry_state" RunState.read? = some c.entry ∧
      optional? record "exit_state" RunState.read? = some c.exit ∧
      required? record "data" CommandBody.read? = some c.body := by
  simp only [read?, Option.bind_eq_bind, Option.bind_eq_some_iff] at read
  obtain ⟨record, found, _, _, entry, entered, exit, left, body, filled, same⟩ := read
  obtain rfl := Option.some.inj same
  exact ⟨record, found, entered, left, filled⟩

theorem portable_of_read? {node : Node} {c : Command} {depth : Nat} (within : node.Within depth)
    (room : 7 ≤ depth) (read : read? node = some c) :
    c.Portable ∧ c.toJson.Fits (·.isFinite = true) depth := by
  obtain ⟨record, found, _, _, filled⟩ := fields_of_read? read
  obtain ⟨below, rfl, each⟩ := within.record? found
  obtain ⟨data, field, bodied⟩ := required?_eq_some_iff.mp filled
  obtain ⟨entries, fits⟩ := CommandBody.portable_of_read? (Within.lookup each field)
    (Nat.le_of_succ_le_succ room) bodied
  refine ⟨fun e member => ?_, fits_toJson fits⟩
  cases body : c.body with
  | topology t => simp [addressed, body] at member
  | payloads listed => exact entries listed body e (by simpa [addressed, body] using member)

end Command

end ReadoutControl
