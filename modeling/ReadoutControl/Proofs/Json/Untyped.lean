import Mathlib.Data.List.Sort
import ReadoutControl.Proofs.Json.Readable
import ReadoutControl.Proofs.Json.Reading

set_option autoImplicit false

/-!
What becomes of a value between its writer and an untyped reader. On the way to the text a value is
converted to an untyped one, whose objects keep their keys in order; the text shows that value and
no other, so reading gives it back, and the order of its keys is the order in the text.
-/

namespace ReadoutControl.Json

/-- How a value is converted to an untyped one, which is possible if its integers have 64 bits. The
keys of every object are put in order, the last of equal keys stands, and floating-point numbers are
as they were written: null where they are not finite. -/
inductive Converts : Json → Json → Prop
  | null : Converts .null .null
  | bool (b : Bool) : Converts (.bool b) (.bool b)
  | int {n : Int} : -2 ^ 63 ≤ n → n < 2 ^ 64 → Converts (.int n) (.int n)
  | number (x : Binary64) : Converts (.ofBinary64 x) (.ofBinary64 x)
  | str (s : String) : Converts (.str s) (.str s)
  | arr {items values : List Json} : values.length = items.length →
    (∀ (i : Nat) x y, items[i]? = some x → values[i]? = some y → Converts x y) →
      Converts (.arr items) (.arr values)
  | obj {fields values : List (String × Json)} : (values.Pairwise fun a b => a.1 < b.1) →
    (∀ key, key ∈ values.map (·.1) ↔ key ∈ fields.map (·.1)) →
      (∀ key x y, fields.reverse.lookup key = some x → values.lookup key = some y →
        Converts x y) → Converts (.obj fields) (.obj values)

mutual

/-- How deep arrays and objects are nested in a value. -/
def nesting : Json → Nat
  | .arr items => nestingOfItems items + 1
  | .obj fields => nestingOfFields fields + 1
  | _ => 0

def nestingOfItems : List Json → Nat
  | [] => 0
  | item :: rest => max (nesting item) (nestingOfItems rest)

def nestingOfFields : List (String × Json) → Nat
  | [] => 0
  | (_, value) :: rest => max (nesting value) (nestingOfFields rest)

end

theorem nesting_le_of_mem_items {items : List Json} {item : Json} (member : item ∈ items) :
    item.nesting ≤ nestingOfItems items := by
  induction items with
  | nil => exact nomatch member
  | cons first rest ih =>
    rw [nestingOfItems]
    rcases List.mem_cons.mp member with rfl | later
    · exact Nat.le_max_left ..
    · exact (ih later).trans (Nat.le_max_right ..)

theorem nesting_le_of_mem_fields {fields : List (String × Json)} {field : String × Json}
    (member : field ∈ fields) : field.2.nesting ≤ nestingOfFields fields := by
  induction fields with
  | nil => exact nomatch member
  | cons first rest ih =>
    rw [nestingOfFields]
    rcases List.mem_cons.mp member with rfl | later
    · exact Nat.le_max_left ..
    · exact (ih later).trans (Nat.le_max_right ..)

/-- Fields in order are known by what stands under each key. -/
theorem eq_of_lookup {α : Type} {fields others : List (String × α)}
    (ordered : fields.Pairwise fun a b => a.1 < b.1)
    (inOrder : others.Pairwise fun a b => a.1 < b.1)
    (same : ∀ key, fields.lookup key = others.lookup key) : fields = others := by
  have mem_iff {fields : List (String × α)} (ordered : fields.Pairwise fun a b => a.1 < b.1)
      (field : String × α) : field ∈ fields ↔ fields.lookup field.1 = some field.2 :=
    ⟨lookup_eq_some_of_mem (nodup_keys_of_ordered ordered), mem_of_lookup_eq_some⟩
  have irreflexive : Std.Irrefl fun a b : String × α => a.1 < b.1 :=
    ⟨fun a => String.lt_irrefl a.1⟩
  have antisymmetric : Std.Antisymm fun a b : String × α => a.1 < b.1 :=
    ⟨fun a b below above => absurd above (String.lt_asymm below)⟩
  refine List.Pairwise.eq_of_mem_iff ordered inOrder fun field => ?_
  rw [mem_iff ordered, mem_iff inOrder, same]

namespace Converts

variable {v w : Json}

/-- There is one untyped value to convert to. -/
theorem eq_sorted (converts : Converts v w) : w = v.sorted := by
  induction converts with
  | number x =>
    unfold ofBinary64
    split <;> rfl
  | @arr items values length _ ih =>
    rw [sorted, sortedItems_eq]
    refine congrArg Json.arr (List.ext_getElem (by simp [length]) fun i here there => ?_)
    rw [List.length_map] at there
    rw [List.getElem_map]
    exact ih i _ _ (List.getElem?_eq_getElem there) (List.getElem?_eq_getElem here)
  | @obj fields values ordered keys _ ih =>
    rw [sorted, sortedFields_eq]
    refine congrArg Json.obj (eq_of_lookup ordered (KeyMap.ordered_sortFields _) fun key => ?_)
    rw [lookup_sortFields, ← List.map_reverse, lookup_map]
    have both : (values.lookup key).isSome = true ↔
        (fields.reverse.lookup key).isSome = true := by
      rw [isSome_lookup_iff, isSome_last_iff, keys]
    cases found : values.lookup key with
    | none =>
      rw [found] at both
      have absent : fields.reverse.lookup key = none := by
        rw [← Option.not_isSome_iff_eq_none, ← both]
        simp
      rw [absent, Option.map_none]
    | some y =>
      obtain ⟨x, origin⟩ := Option.isSome_iff_exists.mp (both.mp (by rw [found]; rfl))
      rw [origin, Option.map_some, ih key x y origin found]
  | _ => rfl

/-- An untyped value has numbers that can be written, and fits where its nesting does. -/
theorem fits (converts : Converts v w) : w.Fits (·.isFinite = true) w.nesting := by
  induction converts with
  | null => exact .null
  | bool b => exact .bool b
  | int lower upper => exact .int lower upper
  | number x => exact fits_ofBinary64 x
  | str s => exact .str s
  | @arr items values length _ ih =>
    refine .arr fun value member => Fits.deeper ?_ (nesting_le_of_mem_items member)
    obtain ⟨i, here, rfl⟩ := List.mem_iff_getElem.mp member
    exact ih i _ _ (List.getElem?_eq_getElem (length ▸ here)) (List.getElem?_eq_getElem here)
  | @obj fields values ordered keys _ ih =>
    refine .obj fun field member => Fits.deeper ?_ (nesting_le_of_mem_fields member)
    obtain ⟨key, y⟩ := field
    have value := lookup_eq_some_of_mem (nodup_keys_of_ordered ordered) member
    have listed : key ∈ fields.map (·.1) := (keys key).mp (List.mem_map.mpr ⟨_, member, rfl⟩)
    obtain ⟨x, origin⟩ := Option.isSome_iff_exists.mp (isSome_last_iff.mpr listed)
    exact ih key x y origin value

/-- Every value that can be written converts, in whatever order its keys are. -/
theorem sorted {depth : Nat} (fits : v.Fits (·.isFinite = true) depth) : Converts v v.sorted := by
  induction fits with
  | null => exact .null
  | bool b => exact .bool b
  | int lower upper => exact .int lower upper
  | @float _ x finite =>
    have number : ofBinary64 x = .float x := if_pos finite
    change Converts (.float x) (.float x)
    exact number ▸ .number x
  | str s => exact .str s
  | arr _ ih =>
    rw [Json.sorted, sortedItems_eq]
    refine .arr (List.length_map _) fun i x y here there => ?_
    rw [List.getElem?_map, here] at there
    obtain rfl := Option.some.inj there
    exact ih x (List.mem_of_getElem? here)
  | @obj _ fields _ ih =>
    rw [Json.sorted, sortedFields_eq]
    refine .obj (KeyMap.ordered_sortFields _) (fun key => ?_) fun key x y here there => ?_
    · rw [← isSome_lookup_iff, lookup_sortFields, isSome_last_iff, List.map_map]
      rfl
    · rw [lookup_sortFields, ← List.map_reverse, lookup_map, here] at there
      obtain rfl := Option.some.inj there
      exact ih (key, x) (List.mem_reverse.mp (mem_of_lookup_eq_some here))

end Converts

namespace Node

/-- All of a tree can be read, and in every object the keys stand in order. -/
inductive InOrder : Node → Prop
  | null : InOrder .null
  | bool (b : Bool) : InOrder (.bool b)
  | int (n : Int) : InOrder (.int n)
  | float (x : Binary64) : InOrder (.float x)
  | str (s : String) : InOrder (.str s)
  | arr {items : List Node} : (∀ item ∈ items, InOrder item) → InOrder (.arr items)
  | obj {fields : List (String × Node)} : (fields.Pairwise fun a b => a.1 < b.1) →
    (∀ field ∈ fields, InOrder field.2) → InOrder (.obj fields)

theorem inOrder_ofJson {v : Json} (ordered : v.Ordered) : (ofJson v).InOrder := by
  induction ordered with
  | null => exact .null
  | bool b => exact .bool b
  | int n => exact .int n
  | float x => exact .float x
  | str s => exact .str s
  | arr _ ih =>
    rw [ofJson, ofItems_eq]
    exact .arr (List.forall_mem_map.mpr ih)
  | obj keys _ ih =>
    rw [ofJson, ofFields_eq]
    exact .obj (List.pairwise_map.mpr keys) (List.forall_mem_map.mpr ih)

end Node

theorem document_sorted (v : Json) : v.sorted.document = v.document := by
  rw [document, v.ordered_sorted.sorted_eq, document]

/-- The document of a value that converts to an untyped one shows the keys of every object in order,
in whatever order they were written. It is read as the untyped value, but for the numbers that are
not read as they were printed; where all are, it is read as exactly this value. -/
theorem Converts.document_read {v w : Json} (converts : Converts v w) (shallow : w.nesting ≤ 127) :
    (∃ node, Node.ofText? v.document.toList = some node ∧ node.InOrder ∧
      node.value? = some w.reread) ∧
    ((∀ x ∈ w.floats, x.isFinite = true → x.ReadsBack) → ofText? v.document = some w) := by
  have fits : w.Fits (·.isFinite = true) Node.maxDepth := converts.fits.deeper shallow
  have same : w.sorted = w := by rw [converts.eq_sorted, v.ordered_sorted.sorted_eq]
  have order : w.reread.sorted = w.reread := by rw [← reread_sorted, same]
  have text : v.document = w.document := by rw [converts.eq_sorted, document_sorted]
  have read : Node.ofText? w.document.toList = some w.reread.tree :=
    ofText?_reread (fits.of_floats fun x _ finite => Binary64.rereads_of_isFinite finite)
  have value : w.reread.tree.value? = some w.reread := by rw [value?_tree, order]
  rw [text]
  refine ⟨⟨_, read, Node.inOrder_ofJson (ordered_sorted _), value⟩, fun numbers => ?_⟩
  have kept : w.reread = w := (fits.of_floats numbers).reread_eq
  rw [ofText?, read, Option.bind_some, value, kept]

/-- A value with a repeated key, keys out of order, the ends of the integers, a number without a
numeral, and characters that are escaped or lie beyond the first plane. -/
theorem document_read_repeated :
    let items := Json.arr [.int 18446744073709551615, .int (-9223372036854775808), .arr [], .obj [],
      .str "\x00\t\\𝄞", .ofBinary64 (.nan false)]
    let v := Json.obj [("zeta", .int 1),
      ("alpha", .obj [("b", .ofBinary64 ⟨0x4000000000000000⟩), ("a\"é", items)]),
      ("zeta", .ofBinary64 ⟨0x3FE999999999999A⟩)]
    let w := Json.obj [
      ("alpha", .obj [("a\"é", items), ("b", .ofBinary64 ⟨0x4000000000000000⟩)]),
      ("zeta", .ofBinary64 ⟨0x3FE999999999999A⟩)]
    Converts v w ∧ w.nesting ≤ 127 ∧ (∀ x ∈ w.floats, x.isFinite = true → x.ReadsBack) ∧
      ofText? v.document = some w := by
  intro items v w
  have converts : Converts v w := by
    have int {n : Int} (range : -2 ^ 63 ≤ n ∧ n < 2 ^ 64) {depth : Nat} :
        (Json.int n).Fits (·.isFinite = true) depth := .int range.1 range.2
    have noItems : (Json.arr []).Fits (·.isFinite = true) 1 := .arr (by simp)
    have noFields : (Json.obj []).Fits (·.isFinite = true) 1 := .obj (by simp)
    have list : items.Fits (·.isFinite = true) 2 := .arr (by simp [int, noItems, noFields])
    have inner : (Json.obj [("b", .ofBinary64 ⟨0x4000000000000000⟩), ("a\"é", items)]).Fits
        (·.isFinite = true) 3 := .obj (by simp [list])
    have fits : v.Fits (·.isFinite = true) 4 := .obj (by simp [int, inner])
    have same : v.sorted = w := by
      dsimp only [v, w, items]
      rfl
    exact same ▸ .sorted fits
  have shallow : w.nesting ≤ 127 := by decide
  have numbers : ∀ x ∈ w.floats, x.isFinite = true → x.ReadsBack := by decide +kernel
  exact ⟨converts, shallow, numbers, (converts.document_read shallow).2 numbers⟩

end ReadoutControl.Json
