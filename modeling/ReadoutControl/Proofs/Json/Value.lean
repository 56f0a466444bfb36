import Mathlib.Algebra.Group.Int.Defs
import ReadoutControl.Json.Node
import ReadoutControl.Proofs.Json.Fields

set_option autoImplicit false

/-!
JSON values by their parts. `Json.parts` is the induction over a value whose arrays and objects give
the induction hypothesis for their members; `Fits` bounds numbers and nesting, `Ordered` is the
order of keys that an untyped value keeps, and `tree` is the tree that a document is read as.
-/

namespace ReadoutControl.Json

@[elab_as_elim]
theorem parts {P : Json → Prop} (null : P .null) (bool : ∀ b, P (.bool b)) (int : ∀ n, P (.int n))
    (float : ∀ x, P (.float x)) (str : ∀ s, P (.str s))
    (arr : ∀ items, (∀ item ∈ items, P item) → P (.arr items))
    (obj : ∀ fields, (∀ field ∈ fields, P field.2) → P (.obj fields)) : ∀ v, P v
  | .null => null
  | .bool b => bool b
  | .int n => int n
  | .float x => float x
  | .str s => str s
  | .arr items => arr items fun item _ => parts null bool int float str arr obj item
  | .obj fields => obj fields fun field _ => parts null bool int float str arr obj field.2
termination_by v => sizeOf v
decreasing_by
  · next member =>
    have := List.sizeOf_lt_of_mem member
    simp only [Json.arr.sizeOf_spec]
    omega
  · next member =>
    have := List.sizeOf_lt_of_mem member
    obtain ⟨key, value⟩ := field
    simp only [Json.obj.sizeOf_spec, Prod.mk.sizeOf_spec] at *
    omega

theorem sortedItems_eq (items : List Json) : sortedItems items = items.map sorted := by
  induction items with
  | nil => rfl
  | cons item rest ih => simp [sortedItems, ih]

theorem sortedFields_eq (fields : List (String × Json)) :
    sortedFields fields = fields.map fun field => (field.1, field.2.sorted) := by
  induction fields with
  | nil => rfl
  | cons field rest ih => simp [sortedFields, ih]

/-- Integers have 64 bits, with or without a sign, floating-point numbers satisfy `P`, and at most
`depth` arrays and objects are nested. -/
inductive Fits (P : Binary64 → Prop) : Nat → Json → Prop
  | null {depth} : Fits P depth .null
  | bool {depth} (b : Bool) : Fits P depth (.bool b)
  | int {depth n} : -2 ^ 63 ≤ n → n < 2 ^ 64 → Fits P depth (.int n)
  | float {depth x} : P x → Fits P depth (.float x)
  | str {depth} (s : String) : Fits P depth (.str s)
  | arr {depth items} : (∀ item ∈ items, Fits P depth item) → Fits P (depth + 1) (.arr items)
  | obj {depth} {fields : List (String × Json)} : (∀ field ∈ fields, Fits P depth field.2) →
    Fits P (depth + 1) (.obj fields)

theorem Fits.deeper {P : Binary64 → Prop} {depth more : Nat} {v : Json} (fits : v.Fits P depth)
    (le : depth ≤ more) : v.Fits P more := by
  induction fits generalizing more with
  | null => exact .null
  | bool b => exact .bool b
  | int lower upper => exact .int lower upper
  | float sound => exact .float sound
  | str s => exact .str s
  | arr _ ih =>
    obtain ⟨below, rfl⟩ : ∃ below, more = below + 1 := ⟨more - 1, by omega⟩
    exact .arr fun item member => ih item member (by omega)
  | obj _ ih =>
    obtain ⟨below, rfl⟩ : ∃ below, more = below + 1 := ⟨more - 1, by omega⟩
    exact .obj fun field member => ih field member (by omega)

theorem Fits.sorted {P : Binary64 → Prop} {depth : Nat} {v : Json} (fits : v.Fits P depth) :
    v.sorted.Fits P depth := by
  induction fits with
  | null => exact .null
  | bool b => exact .bool b
  | int lower upper => exact .int lower upper
  | float sound => exact .float sound
  | str s => exact .str s
  | arr _ ih =>
    rw [Json.sorted, sortedItems_eq]
    exact .arr (List.forall_mem_map.mpr ih)
  | obj _ ih =>
    rw [Json.sorted, sortedFields_eq]
    refine .obj fun field member => ?_
    obtain ⟨origin, here, rfl⟩ := List.mem_map.mp (mem_sortFields member)
    exact ih origin here

mutual

/-- The floating-point numbers in a value, in the order they are printed but for the order of
keys. -/
def floats : Json → List Binary64
  | .float x => [x]
  | .arr items => floatsOfItems items
  | .obj fields => floatsOfFields fields
  | _ => []

def floatsOfItems : List Json → List Binary64
  | [] => []
  | item :: rest => floats item ++ floatsOfItems rest

def floatsOfFields : List (String × Json) → List Binary64
  | [] => []
  | (_, value) :: rest => floats value ++ floatsOfFields rest

end

theorem mem_floats_arr {items : List Json} {x : Binary64} :
    x ∈ (Json.arr items).floats ↔ ∃ item ∈ items, x ∈ item.floats := by
  rw [floats]
  induction items with
  | nil => simp [floatsOfItems]
  | cons item rest ih => simp [floatsOfItems, ih]

theorem mem_floats_obj {fields : List (String × Json)} {x : Binary64} :
    x ∈ (Json.obj fields).floats ↔ ∃ field ∈ fields, x ∈ field.2.floats := by
  rw [floats]
  induction fields with
  | nil => simp [floatsOfFields]
  | cons field rest ih => simp [floatsOfFields, ih]

section Pieces

variable {P : Binary64 → Prop} {depth : Nat}

theorem fits_ofNat {n : Nat} (bound : n < UInt64.size) : (Json.ofNat n).Fits P depth := by
  have small : (n : Int) < 2 ^ 64 := Int.ofNat_lt.mpr bound
  exact .int (by omega) small

@[simp]
theorem fits_uint32 (n : UInt32) : (Json.ofNat n.toNat).Fits P depth :=
  fits_ofNat (Nat.lt_trans n.toNat_lt_size (by decide))

@[simp]
theorem fits_uint64 (n : UInt64) : (Json.ofNat n.toNat).Fits P depth :=
  fits_ofNat n.toNat_lt_size

@[simp]
theorem fits_int64 (n : Int64) : (Json.int n.toInt).Fits P depth := by
  have upper := n.toInt_lt
  exact .int n.le_toInt (by omega)

@[simp]
theorem fits_str (s : String) : (Json.str s).Fits P depth := .str s

@[simp]
theorem fits_bool (b : Bool) : (Json.bool b).Fits P depth := .bool b

@[simp]
theorem fits_ofBinary64 (x : Binary64) : (Json.ofBinary64 x).Fits (·.isFinite = true) depth := by
  unfold ofBinary64
  split
  · next finite => exact .float finite
  · exact .null

theorem fits_optionalField {α : Type} {name : String} {value : Option α} {write : α → Json}
    (each : ∀ x, (write x).Fits P depth) :
    ∀ field ∈ optionalField name (value.map write), field.2.Fits P depth := by
  cases value with
  | none => simp [optionalField]
  | some x => simp [optionalField, each x]

end Pieces

/-- What is known of the numbers in a value may be used of them. -/
theorem Fits.of_floats {P Q : Binary64 → Prop} {depth : Nat} {v : Json} (fits : v.Fits P depth)
    (each : ∀ x ∈ v.floats, P x → Q x) : v.Fits Q depth := by
  induction fits with
  | null => exact .null
  | bool b => exact .bool b
  | int lower upper => exact .int lower upper
  | float sound => exact .float (each _ (List.mem_singleton_self _) sound)
  | str s => exact .str s
  | arr _ ih =>
    exact .arr fun item member => ih item member fun x inside =>
      each x (mem_floats_arr.mpr ⟨item, member, inside⟩)
  | obj _ ih =>
    exact .obj fun field member => ih field member fun x inside =>
      each x (mem_floats_obj.mpr ⟨field, member, inside⟩)

theorem Fits.of_mem_floats {P : Binary64 → Prop} {depth : Nat} {v : Json} (fits : v.Fits P depth) :
    ∀ x ∈ v.floats, P x := by
  induction fits with
  | float sound => simpa [floats] using sound
  | arr _ ih =>
    intro x inside
    obtain ⟨item, member, inside⟩ := mem_floats_arr.mp inside
    exact ih item member x inside
  | obj _ ih =>
    intro x inside
    obtain ⟨field, member, inside⟩ := mem_floats_obj.mp inside
    exact ih field member x inside
  | _ => simp [floats]

/-- The keys of every object stand in order, and none of them twice. -/
inductive Ordered : Json → Prop
  | null : Ordered .null
  | bool (b : Bool) : Ordered (.bool b)
  | int (n : Int) : Ordered (.int n)
  | float (x : Binary64) : Ordered (.float x)
  | str (s : String) : Ordered (.str s)
  | arr {items} : (∀ item ∈ items, Ordered item) → Ordered (.arr items)
  | obj {fields : List (String × Json)} : (fields.Pairwise fun a b => a.1 < b.1) →
    (∀ field ∈ fields, Ordered field.2) → Ordered (.obj fields)

theorem ordered_sorted (v : Json) : v.sorted.Ordered := by
  induction v using parts with
  | null => exact .null
  | bool b => exact .bool b
  | int n => exact .int n
  | float x => exact .float x
  | str s => exact .str s
  | arr items ih =>
    rw [Json.sorted, sortedItems_eq]
    exact .arr (List.forall_mem_map.mpr ih)
  | obj fields ih =>
    rw [Json.sorted, sortedFields_eq]
    refine .obj (KeyMap.ordered_sortFields _) fun field member => ?_
    obtain ⟨origin, here, rfl⟩ := List.mem_map.mp (mem_sortFields member)
    exact ih origin here

theorem Ordered.sorted_eq {v : Json} (ordered : v.Ordered) : v.sorted = v := by
  induction ordered with
  | arr _ ih =>
    rw [Json.sorted, sortedItems_eq, List.map_congr_left ih, List.map_id']
  | @obj fields keys _ ih =>
    have same : (fields.map fun field => (field.1, field.2.sorted)) = fields := by
      refine (List.map_congr_left fun field member => ?_).trans (List.map_id fields)
      rw [ih field member]
      rfl
    rw [Json.sorted, sortedFields_eq, same, sortFields_of_ordered keys]
  | _ => rfl

namespace Node

mutual

/-- The tree of the printed value. -/
def ofJson : Json → Node
  | .null => .null
  | .bool b => .bool b
  | .int n => .int n
  | .float x => .float x
  | .str s => .str s
  | .arr items => .arr (ofItems items)
  | .obj fields => .obj (ofFields fields)

def ofItems : List Json → List Node
  | [] => []
  | item :: rest => ofJson item :: ofItems rest

def ofFields : List (String × Json) → List (String × Node)
  | [] => []
  | (key, value) :: rest => (key, ofJson value) :: ofFields rest

end

theorem ofItems_eq (items : List Json) : ofItems items = items.map ofJson := by
  induction items with
  | nil => rfl
  | cons item rest ih => simp [ofItems, ih]

theorem ofFields_eq (fields : List (String × Json)) :
    ofFields fields = fields.map fun field => (field.1, ofJson field.2) := by
  induction fields with
  | nil => rfl
  | cons field rest ih => simp [ofFields, ih]

theorem values?_ofItems {items : List Json}
    (each : ∀ item ∈ items, (ofJson item).value? = some item) :
    values? (ofItems items) = some items := by
  induction items with
  | nil => rfl
  | cons item rest ih =>
    rw [List.forall_mem_cons] at each
    simp [ofItems, values?, each.1, ih each.2]

theorem fieldValues?_ofFields {fields : List (String × Json)}
    (each : ∀ field ∈ fields, (ofJson field.2).value? = some field.2) :
    fieldValues? (ofFields fields) = some fields := by
  induction fields with
  | nil => rfl
  | cons field rest ih =>
    rw [List.forall_mem_cons] at each
    simp [ofFields, fieldValues?, each.1, ih each.2]

theorem value?_ofJson {v : Json} (ordered : v.Ordered) : (ofJson v).value? = some v := by
  induction ordered with
  | arr _ ih => simp [ofJson, value?, values?_ofItems ih]
  | obj keys _ ih =>
    simp [ofJson, value?, fieldValues?_ofFields ih, sortFields_of_ordered keys]
  | _ => rfl

end Node

/-- The tree that the document of the value is read as. -/
def tree (v : Json) : Node := Node.ofJson v.sorted

theorem value?_tree (v : Json) : v.tree.value? = some v.sorted :=
  Node.value?_ofJson v.ordered_sorted

theorem tree_sorted (v : Json) : v.sorted.tree = v.tree :=
  congrArg Node.ofJson (ordered_sorted v).sorted_eq

theorem tree_ne_null {v : Json} (some_value : v ≠ .null) : v.tree ≠ .null := by
  cases v <;> simp_all [tree, Json.sorted, Node.ofJson]

theorem tree_arr (items : List Json) : (Json.arr items).tree = .arr (items.map tree) := by
  simp [tree, Json.sorted, sortedItems_eq, Node.ofJson, Node.ofItems_eq, Function.comp_def]

theorem tree_obj (fields : List (String × Json)) :
    (Json.obj fields).tree =
      .obj (sortFields (fields.map fun field => (field.1, field.2.tree))) := by
  rw [tree, Json.sorted, sortedFields_eq, Node.ofJson, Node.ofFields_eq, ← sortFields_map,
    List.map_map]
  rfl

end ReadoutControl.Json
