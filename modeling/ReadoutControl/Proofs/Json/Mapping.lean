import ReadoutControl.Balance.PinMap
import ReadoutControl.Proofs.Json.Shape
import ReadoutControl.Proofs.Json.Untyped

set_option autoImplicit false

/-!
Maps as they are written in texts. A map is read from an object, all of whose values must be
readable, and what stands under a key is what its last occurrence says.
-/

namespace ReadoutControl

open Json

namespace Json.Node

/-- An object with values of one kind. -/
inductive ObjectOf (P : Node → Prop) : Node → Prop
  | fields {fields : List (String × Node)} :
    (∀ field ∈ fields, P field.2) → ObjectOf P (.obj fields)

/-- Objects with the same keys, which say the same where a key occurs last. -/
inductive SameLast (same : Node → Node → Prop) : Node → Node → Prop
  | fields {fields others : List (String × Node)} :
    (∀ key, Option.Rel same (fields.reverse.lookup key) (others.reverse.lookup key)) →
    SameLast same (.obj fields) (.obj others)

end Json.Node

namespace KeyMap

variable {α : Type} {m n : KeyMap α} {node other : Node} {read : Node → Option α}

/-- The last value under each key of the object is the one of the map, and no value is amiss. -/
inductive Written (means : α → Node → Prop) (m : KeyMap α) : Node → Prop
  | object {fields : List (String × Node)} :
    (∀ field ∈ fields, ∃ x, means x field.2) →
    (∀ key, Option.Rel means (m.lookup key) (fields.reverse.lookup key)) →
    Written means m (.obj fields)

theorem lookup_ofList (fields : List (String × α)) (key : String) :
    (ofList fields).lookup key = fields.reverse.lookup key := lookup_sortFields fields key

theorem eq_of_lookup (same : ∀ key, m.lookup key = n.lookup key) : m = n :=
  KeyMap.ext (Json.eq_of_lookup m.ordered n.ordered same)

theorem ofList_entries (m : KeyMap α) : ofList m.entries = m :=
  KeyMap.ext (sortFields_of_ordered m.ordered)

/-- What two maps have under a key is the same just if they are written there alike. -/
theorem rel_eq_iff {means : α → Node → Prop} {same : Node → Node → Prop}
    (alike : ∀ x y value value', means x value → means y value' → (same value value' ↔ x = y))
    {x? y? : Option α} {value? value'? : Option Node} (here : Option.Rel means x? value?)
    (there : Option.Rel means y? value'?) : Option.Rel same value? value'? ↔ x? = y? := by
  cases here with
  | none =>
    cases there with
    | none => exact ⟨fun _ => rfl, fun _ => .none⟩
    | some _ => exact ⟨nofun, nofun⟩
  | some here =>
    cases there with
    | none => exact ⟨nofun, nofun⟩
    | some there =>
      rw [Option.some.injEq, ← alike _ _ _ _ here there]
      exact ⟨fun (.some same) => same, .some⟩

/-- Two maps are the same just if what they are written as says the same under every key. -/
theorem Written.eq_iff {means : α → Node → Prop} {same : Node → Node → Prop}
    (alike : ∀ x y value value', means x value → means y value' → (same value value' ↔ x = y))
    (written : m.Written means node) (written' : n.Written means other) :
    node.SameLast same other ↔ m = n := by
  obtain @⟨fields, _, last⟩ := written
  obtain @⟨others, _, last'⟩ := written'
  have each (key : String) := rel_eq_iff alike (last key) (last' key)
  constructor
  · rintro (@⟨_, _, same⟩)
    exact eq_of_lookup fun key => (each key).mp (same key)
  · rintro rfl
    exact .fields fun key => (each key).mpr rfl

/-- A map has the keys that it is written with. -/
theorem Written.mem_keys_iff {means : α → Node → Prop} {fields : List (String × Node)}
    (written : m.Written means (.obj fields)) {key : String} :
    key ∈ m.keys ↔ key ∈ fields.map (·.1) := by
  have both {x? : Option α} {value? : Option Node} (here : Option.Rel means x? value?) :
      x?.isSome = value?.isSome := by
    cases here <;> rfl
  cases written with
  | object _ last =>
    rw [keys, ← isSome_lookup_iff, ← isSome_last_iff, ← both (last key), lookup]

/-- The fields of an object, each with its value read. -/
def ReadFields (read : Node → Option α) : List (String × α) → List (String × Node) → Prop :=
  List.Forall₂ fun value field => value.1 = field.1 ∧ read field.2 = some value.2

theorem mapM_fields_iff {fields : List (String × Node)} {values : List (String × α)} :
    (fields.mapM fun field => (read field.2).map fun value => (field.1, value)) = some values ↔
      ReadFields read values fields := by
  have one (value : String × α) (field : String × Node) :
      (read field.2).map (field.1, ·) = some value ↔
        value.1 = field.1 ∧ read field.2 = some value.2 := by
    obtain ⟨key, x⟩ := value
    rw [Option.map_eq_some_iff]
    constructor
    · rintro ⟨_, found, same⟩
      obtain ⟨rfl, rfl⟩ := Prod.mk.inj same
      exact ⟨rfl, found⟩
    · rintro ⟨rfl, found⟩
      exact ⟨x, found, rfl⟩
  simp only [Node.mapM_eq_some_iff, ReadFields, one]

theorem ReadFields.lookup {values : List (String × α)} {fields : List (String × Node)}
    (each : ReadFields read values fields) (key : String) :
    Option.Rel (fun x node => read node = some x) (values.lookup key) (fields.lookup key) := by
  induction each with
  | nil => exact .none
  | @cons value field values fields first _ ih =>
    obtain ⟨key', x⟩ := value
    obtain ⟨_, node⟩ := field
    obtain ⟨rfl, found⟩ := first
    rw [lookup_cons, lookup_cons]
    split
    · exact .some found
    · exact ih

theorem exists_readFields {fields : List (String × Node)} :
    (∃ values, ReadFields read values fields) ↔ ∀ field ∈ fields, ∃ x, read field.2 = some x := by
  induction fields with
  | nil => exact ⟨fun _ => by simp, fun _ => ⟨[], .nil⟩⟩
  | cons field fields ih =>
    rw [List.forall_mem_cons, ← ih]
    constructor
    · rintro ⟨_, each⟩
      cases each with
      | @cons value _ values _ first each => exact ⟨⟨value.2, first.2⟩, values, each⟩
    · rintro ⟨⟨x, first⟩, values, each⟩
      exact ⟨(field.1, x) :: values, .cons ⟨rfl, first⟩ each⟩

/-- An object whose values are read is written as the map of them. -/
theorem written_ofList {values : List (String × α)} {fields : List (String × Node)}
    (each : ReadFields read values fields) :
    (ofList values).Written (fun x node => read node = some x) (.obj fields) := by
  have last : ReadFields read values.reverse fields.reverse := List.rel_reverse each
  refine .object (exists_readFields.mp ⟨values, each⟩) fun key => ?_
  rw [lookup_ofList]
  exact last.lookup key

/-- A map is read from just the objects that it is written as. -/
theorem read?_eq_some_iff :
    KeyMap.read? read node = some m ↔ m.Written (fun x node => read node = some x) node := by
  constructor
  · intro found
    cases node with
    | obj fields =>
      obtain ⟨values, each, rfl⟩ := Option.map_eq_some_iff.mp found
      exact written_ofList (mapM_fields_iff.mp each)
    | _ => exact nomatch found
  · intro written
    obtain @⟨fields, readable, last⟩ := written
    obtain ⟨values, each⟩ := exists_readFields.mpr readable
    have alike (x y : α) (value value' : Node) (here : read value = some x)
        (there : read value' = some y) : read value = read value' ↔ x = y := by
      rw [here, there, Option.some.injEq]
    have same : ofList values = m := by
      apply ((written_ofList each).eq_iff alike (.object readable last)).mp
      refine .fields fun key => ?_
      cases fields.reverse.lookup key with
      | none => exact .none
      | some _ => exact .some rfl
    exact Option.map_eq_some_iff.mpr ⟨values, mapM_fields_iff.mpr each, same⟩

/-- A map is read from every object whose values can be read. -/
theorem isSome_read?_iff :
    (KeyMap.read? read node).isSome = true ↔
      node.ObjectOf fun value => (read value).isSome = true := by
  simp only [Option.isSome_iff_exists]
  constructor
  · rintro ⟨m, found⟩
    cases read?_eq_some_iff.mp found with
    | object readable _ => exact .fields readable
  · rintro (@⟨fields, readable⟩)
    obtain ⟨values, each⟩ := exists_readFields.mpr readable
    exact ⟨ofList values, read?_eq_some_iff.mpr (written_ofList each)⟩

/-- What a map is written as by itself is read as the map. -/
theorem read?_toJson {write : α → Json} (back : ∀ x, read (.ofJson (write x)) = some x)
    (m : KeyMap α) : KeyMap.read? read (.ofJson (m.toJson write)) = some m := by
  have each : ReadFields read m.entries
      (m.entries.map fun entry => (entry.1, .ofJson (write entry.2))) :=
    List.forall₂_map_right_iff.mpr (List.forall₂_same.mpr fun entry _ => ⟨rfl, back entry.2⟩)
  have written := read?_eq_some_iff.mpr (written_ofList each)
  rw [ofList_entries] at written
  rw [KeyMap.toJson, Node.ofJson, Node.ofFields_eq, List.map_map]
  exact written

theorem fits_toJson {P : Binary64 → Prop} {depth : Nat} {write : α → Json}
    (each : ∀ x, (write x).Fits P depth) (m : KeyMap α) : (m.toJson write).Fits P (depth + 1) := by
  refine .obj fun field member => ?_
  obtain ⟨entry, _, rfl⟩ := List.mem_map.mp member
  exact each entry.2

end KeyMap

end ReadoutControl
