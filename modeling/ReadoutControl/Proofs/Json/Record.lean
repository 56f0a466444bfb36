import ReadoutControl.Json.Record
import ReadoutControl.Proofs.Json.Value

set_option autoImplicit false

/-!
Typed reading undoes writing. A reader of a record finds in the tree of an object what was written
under each name, in whatever order the names stand.
-/

namespace ReadoutControl.Json

open Node

theorem record?_of_nodup {fields : List (String × Node)} (distinct : (fields.map (·.1)).Nodup)
    (names defaulted : List String) : (Node.obj fields).record? names defaulted = some fields := by
  have once (name : String) : (fields.filter (·.1 == name)).length ≤ 1 := by
    rw [← List.countP_eq_length_filter]
    have count := List.nodup_iff_count.mp distinct name
    rwa [List.count_eq_countP, List.countP_map] at count
  have unrepeated : (names.any fun name => 1 < (fields.filter (·.1 == name)).length) = false := by
    simp [once]
  simp only [record?, unrepeated, Bool.false_eq_true, if_false]

/-- The record in the tree of an object has the trees of its fields. -/
theorem record?_tree {v : Json} {fields : List (String × Json)} (shape : v = .obj fields)
    (distinct : (fields.map (·.1)).Nodup) (names defaulted : List String) :
    ∃ record, v.tree.record? names defaulted = some record ∧
      ∀ name, record.lookup name = (fields.lookup name).map tree := by
  subst shape
  have kept : ((fields.map fun field => (field.1, field.2.tree)).map (·.1)).Nodup := by
    simpa [Function.comp_def] using distinct
  refine ⟨sortFields (fields.map fun field => (field.1, field.2.tree)), ?_, fun name => ?_⟩
  · rw [tree_obj]
    exact record?_of_nodup (nodup_keys_of_ordered (KeyMap.ordered_sortFields _)) names defaulted
  · rw [lookup_sortFields_of_nodup kept, lookup_map]

theorem lookup_optionalField (name key : String) (value : Option Json) :
    (optionalField name value).lookup key = if key = name then value else none := by
  cases value <;> simp [optionalField, lookup_cons]

section Fields

variable {α : Type} {record : List (String × Node)} {name : String} {read : Node → Option α} {x : α}

theorem required?_of_lookup {v : Json} (found : record.lookup name = some v.tree)
    (back : read v.tree = some x) : required? record name read = some x := by
  simp [required?, found, back]

theorem optional?_of_null (found : record.lookup name = some (Json.null).tree) :
    optional? record name read = some none := by
  simp [optional?, found, tree, Json.sorted, ofJson]

theorem optional?_of_lookup {v : Json} (found : record.lookup name = some v.tree)
    (some_value : v ≠ .null) (back : read v.tree = some x) :
    optional? record name read = some (some x) := by
  have node := tree_ne_null some_value
  unfold optional?
  rw [found]
  cases same : v.tree <;> simp_all

/-- A field that is left out without a value is read as it was written. -/
theorem optional?_tree {value : Option α} {write : α → Json}
    (found : record.lookup name = (value.map write).map tree)
    (back : ∀ x ∈ value, write x ≠ .null ∧ read (write x).tree = some x) :
    optional? record name read = some value := by
  cases value with
  | none =>
    unfold optional?
    rw [found]
    rfl
  | some x => exact optional?_of_lookup found (back x rfl).1 (back x rfl).2

theorem list?_tree {write : α → Json} {xs : List α}
    (back : ∀ x ∈ xs, read (write x).tree = some x) :
    (Json.arr (xs.map write)).tree.list? read = some xs := by
  rw [tree_arr, list?, List.map_map]
  induction xs with
  | nil => rfl
  | cons x xs ih =>
    rw [List.forall_mem_cons] at back
    simp [back.1, ih back.2]

end Fields

theorem text?_tree (s : String) : (Json.str s).tree.text? = some s := rfl

theorem tree_ofNat (n : Nat) : (Json.ofNat n).tree = .int n := by
  simp only [ofNat, tree, Json.sorted, ofJson]

theorem uint64?_tree (n : UInt64) : (Json.ofNat n.toNat).tree.uint64? = some n := by
  have range : 0 ≤ (n.toNat : Int) ∧ (n.toNat : Int) < UInt64.size :=
    ⟨Int.natCast_nonneg n.toNat, Int.ofNat_lt.mpr n.toNat_lt_size⟩
  rw [tree_ofNat]
  unfold uint64? int?
  rw [Option.bind_some, if_pos range, Int.toNat_natCast, UInt64.ofNat_toNat]

theorem uint32?_tree (n : UInt32) : (Json.ofNat n.toNat).tree.uint32? = some n := by
  have range : 0 ≤ (n.toNat : Int) ∧ (n.toNat : Int) < UInt32.size :=
    ⟨Int.natCast_nonneg n.toNat, Int.ofNat_lt.mpr n.toNat_lt_size⟩
  rw [tree_ofNat]
  unfold uint32? int?
  rw [Option.bind_some, if_pos range, Int.toNat_natCast, UInt32.ofNat_toNat]

theorem int64?_tree (n : Int64) : (Json.int n.toInt).tree.int64? = some n := by
  have range : Int64.minValue.toInt ≤ n.toInt ∧ n.toInt ≤ Int64.maxValue.toInt :=
    ⟨n.minValue_le_toInt, n.toInt_le⟩
  simp only [tree, Json.sorted, ofJson]
  unfold int64? int?
  rw [Option.bind_some, if_pos range, Int64.ofInt_toInt]

theorem bool?_tree (b : Bool) : (Json.bool b).tree.bool? = some b := rfl

/-- A number is read back from its tree if it is finite. -/
theorem float?_tree (x : Binary64) :
    (Json.ofBinary64 x).tree.float? = if x.isFinite then some x else none := by
  unfold ofBinary64
  split <;> rfl

theorem float?_tree_of_finite {x : Binary64} (finite : x.isFinite = true) :
    (Json.ofBinary64 x).tree.float? = some x := by
  rw [float?_tree, if_pos finite]

theorem links?_tree (links : List UInt32) :
    (Json.arr (links.map fun n => .ofNat n.toNat)).tree.list? uint32? = some links :=
  list?_tree fun n _ => uint32?_tree n

end ReadoutControl.Json
