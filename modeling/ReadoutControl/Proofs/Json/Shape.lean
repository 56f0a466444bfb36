import Mathlib.Data.List.Forall2
import ReadoutControl.Proofs.Json.Record

set_option autoImplicit false

/-!
What the typed readers accept, said without them. A record is an object in which a declared name
stands at most once, beside any other keys, or an array of just the declared values; a choice is a
name, or an object with the name as its only key and no value.
-/

namespace ReadoutControl.Json.Node

variable {α : Type}

/-- The values under the declared names, in the order of the names. -/
inductive IsRecord (names : List String) : Node → List (Option Node) → Prop
  | object {fields : List (String × Node)} {values : List (Option Node)} :
    List.Forall₂ (fun name value => fields.filter (·.1 == name) = value.toList.map (name, ·))
      names values → IsRecord names (.obj fields) values
  | array {items : List Node} :
    items.length = names.length → IsRecord names (.arr items) (items.map some)

/-- A name that is given as one of a few. -/
inductive Chooses (name : String) : Node → Prop
  | text : Chooses name (.str name)
  | key : Chooses name (.obj [(name, .null)])

/-- What a field that may be absent or null comes to, by what a value comes to. -/
inductive Optionally (means : Node → α → Prop) : Option Node → Option α → Prop
  | absent : Optionally means none none
  | null : Optionally means (some .null) none
  | value {node : Node} {x : α} :
    node ≠ .null → means node x → Optionally means (some node) (some x)

theorem lookup_eq_head? (fields : List (String × α)) (name : String) :
    fields.lookup name = (fields.filter (·.1 == name)).head?.map (·.2) := by
  induction fields with
  | nil => rfl
  | cons field rest ih =>
    obtain ⟨key, value⟩ := field
    rw [lookup_cons]
    by_cases same : name = key
    · simp [same]
    · rw [if_neg same, ih, List.filter_cons_of_neg (by simpa using Ne.symm same)]

/-- What stands under a name is what is found there, unless the name is repeated. -/
theorem filter_eq_iff {fields : List (String × α)} {name : String} {value : Option α} :
    fields.filter (·.1 == name) = value.toList.map (name, ·) ↔
      (fields.filter (·.1 == name)).length ≤ 1 ∧ fields.lookup name = value := by
  rw [lookup_eq_head?]
  have keys : ∀ field ∈ fields.filter (·.1 == name), field.1 = name := by
    intro field member
    simpa using (List.mem_filter.mp member).2
  generalize fields.filter (·.1 == name) = named at keys
  match named with
  | [] => cases value <;> simp
  | [(key, other)] =>
    obtain rfl : key = name := keys (key, other) (List.mem_singleton_self _)
    cases value <;> simp
  | _ :: _ :: _ => cases value <;> simp

/-- The fields of an object stand under their names if no name is repeated. -/
theorem named_iff {fields : List (String × Node)} {names : List String}
    {values : List (Option Node)} :
    List.Forall₂ (fun name value => fields.filter (·.1 == name) = value.toList.map (name, ·))
        names values ↔
      ¬ (names.any fun name => 1 < (fields.filter (·.1 == name)).length) = true ∧
        names.map (fun name => fields.lookup name) = values := by
  have unrepeated : ¬ (names.any fun name => 1 < (fields.filter (·.1 == name)).length) = true ↔
      ∀ name ∈ names, (fields.filter (·.1 == name)).length ≤ 1 := by
    simp
  simp only [filter_eq_iff]
  rw [unrepeated, List.forall₂_and_left, ← List.forall₂_eq_eq_eq, List.forall₂_map_left_iff]

theorem map_lookup_zip {names : List String} (distinct : names.Nodup) {items : List Node}
    (length : items.length = names.length) :
    names.map (fun name => (names.zip items).lookup name) = items.map some := by
  induction names generalizing items with
  | nil =>
    obtain rfl := List.length_eq_zero_iff.mp length
    rfl
  | cons name names ih =>
    cases items with
    | nil => exact nomatch length
    | cons item items =>
      obtain ⟨absent, distinct⟩ := List.nodup_cons.mp distinct
      have later : names.map (fun other => ((name, item) :: names.zip items).lookup other) =
          names.map (fun other => (names.zip items).lookup other) := by
        apply List.map_congr_left
        intro other member
        rw [lookup_cons, if_neg]
        rintro rfl
        exact absent member
      rw [List.zip_cons_cons, List.map_cons, later, ih distinct (Nat.succ.inj length),
        List.map_cons, List.lookup_cons_self]

/-- Without defaults, the items of an array are as many as the names. -/
theorem complete_iff {names : List String} {length : Nat} :
    (decide (length ≤ names.length) &&
      (names.drop length).all ([] : List String).contains) = true ↔ length = names.length := by
  have none : (names.drop length).all ([] : List String).contains = true ↔
      names.drop length = [] := by
    simp [List.eq_nil_iff_forall_not_mem]
  rw [Bool.and_eq_true, none, List.drop_eq_nil_iff, decide_eq_true_iff]
  omega

/-- A tree is read as a record of the values that are found under the names. -/
theorem record?_iff {names : List String} (distinct : names.Nodup) {node : Node}
    {values : List (Option Node)} :
    (∃ record, node.record? names [] = some record ∧
      names.map (fun name => record.lookup name) = values) ↔ IsRecord names node values := by
  cases node with
  | obj fields =>
    constructor
    · rintro ⟨record, found, lookups⟩
      obtain ⟨unrepeated, same⟩ := Option.ite_none_left_eq_some.mp found
      obtain rfl := Option.some.inj same
      exact .object (named_iff.mpr ⟨unrepeated, lookups⟩)
    · rintro (named | _)
      obtain ⟨unrepeated, lookups⟩ := named_iff.mp named
      refine ⟨fields, ?_, lookups⟩
      rw [record?, if_neg unrepeated]
  | arr items =>
    constructor
    · rintro ⟨record, found, lookups⟩
      obtain ⟨length, same⟩ := Option.ite_none_right_eq_some.mp found
      obtain rfl := Option.some.inj same
      rw [complete_iff] at length
      rw [map_lookup_zip distinct length] at lookups
      subst lookups
      exact .array length
    · rintro (_ | length)
      refine ⟨names.zip items, ?_, map_lookup_zip distinct length⟩
      rw [record?, if_pos (complete_iff.mpr length)]
  | _ =>
    constructor
    · rintro ⟨_, found, _⟩
      cases found
    · intro shape
      cases shape

theorem IsRecord.values_eq {names : List String} (distinct : names.Nodup) {node : Node}
    {values others : List (Option Node)} (shape : IsRecord names node values)
    (other : IsRecord names node others) : values = others := by
  obtain ⟨record, found, rfl⟩ := (record?_iff distinct).mpr shape
  obtain ⟨again, same, rfl⟩ := (record?_iff distinct).mpr other
  obtain rfl := Option.some.inj (found.symm.trans same)
  rfl

/-- What an object has under a name is what is written there. -/
theorem isRecord_tree {names : List String} (distinct : names.Nodup) {fields : List (String × Json)}
    (once : (fields.map (·.1)).Nodup) :
    IsRecord names (Json.obj fields).tree (names.map fun name => (fields.lookup name).map tree) := by
  obtain ⟨record, found, lookup⟩ := record?_tree (v := .obj fields) rfl once names []
  apply (record?_iff distinct).mp
  refine ⟨record, found, ?_⟩
  apply List.map_congr_left
  intro name _
  exact lookup name

theorem text?_eq_some_iff {node : Node} {s : String} : node.text? = some s ↔ node = .str s := by
  cases node <;> simp [text?]

theorem uint64?_eq_some_iff {node : Node} {n : UInt64} :
    node.uint64? = some n ↔ node = .int n.toNat := by
  cases node with
  | int m =>
    simp only [uint64?, int?, Option.bind_some, Option.ite_none_right_eq_some, Option.some.injEq,
      Node.int.injEq]
    constructor
    · rintro ⟨⟨positive, small⟩, rfl⟩
      have bound : m.toNat < UInt64.size := by omega
      rw [UInt64.toNat_ofNat_of_lt' bound, Int.toNat_of_nonneg positive]
    · rintro rfl
      have bound := n.toNat_lt_size
      refine ⟨⟨by omega, by omega⟩, ?_⟩
      rw [Int.toNat_natCast, UInt64.ofNat_toNat]
  | _ => simp [uint64?, int?]

theorem exists_of_forall₂_of_mem {β : Type} {R : α → β → Prop} {xs : List α} {ys : List β} {y : β}
    (each : List.Forall₂ R xs ys) (member : y ∈ ys) : ∃ x ∈ xs, R x y := by
  induction each with
  | nil => exact nomatch member
  | cons first _ ih =>
    rcases List.mem_cons.mp member with rfl | later
    · exact ⟨_, List.mem_cons_self, first⟩
    · obtain ⟨x, listed, holds⟩ := ih later
      exact ⟨x, List.mem_cons_of_mem _ listed, holds⟩

theorem mapM_eq_some_iff {β : Type} {read : β → Option α} {items : List β} {xs : List α} :
    items.mapM read = some xs ↔ List.Forall₂ (fun x item => read item = some x) xs items := by
  induction items generalizing xs with
  | nil => simp [eq_comm]
  | cons item items ih =>
    rw [List.mapM_cons, List.forall₂_cons_right_iff]
    simp only [Option.bind_eq_bind, Option.bind_eq_some_iff, Option.pure_def, Option.some.injEq, ih]
    constructor
    · rintro ⟨x, first, rest, later, rfl⟩
      exact ⟨x, rest, first, later, rfl⟩
    · rintro ⟨x, rest, first, later, rfl⟩
      exact ⟨x, first, rest, later, rfl⟩

/-- A list is read from an array, item by item. -/
theorem list?_eq_some_iff {read : Node → Option α} {node : Node} {xs : List α} :
    node.list? read = some xs ↔
      ∃ items, node = .arr items ∧ List.Forall₂ (fun x item => read item = some x) xs items := by
  cases node <;> simp [list?, mapM_eq_some_iff]

/-- What a choice comes to, if each value may be chosen and no two by the same name. -/
theorem choice?_eq_some_iff {all : List α} {name : α → String} (complete : ∀ x, x ∈ all)
    (distinct : (all.map name).Nodup) {node : Node} {x : α} :
    choice? (all.map fun x => (name x, x)) node = some x ↔ Chooses (name x) node := by
  have keys : ((all.map fun x => (name x, x)).map (·.1)).Nodup := by
    simpa [Function.comp_def] using distinct
  have found (key : String) : (all.map fun x => (name x, x)).lookup key = some x ↔ name x = key := by
    constructor
    · intro found
      obtain ⟨y, _, same⟩ := List.mem_map.mp (mem_of_lookup_eq_some found)
      obtain ⟨rfl, rfl⟩ := Prod.mk.inj same
      rfl
    · rintro rfl
      exact lookup_eq_some_of_mem keys (List.mem_map.mpr ⟨x, complete x, rfl⟩)
  constructor
  · intro read
    unfold choice? at read
    split at read
    · next key =>
      obtain rfl := (found key).mp read
      exact .text
    · next key =>
      obtain rfl := (found key).mp read
      exact .key
    · exact nomatch read
  · rintro (_ | _)
    · exact (found _).mpr rfl
    · exact (found _).mpr rfl

theorem required?_eq_some_iff {record : List (String × Node)} {name : String}
    {read : Node → Option α} {x : α} :
    required? record name read = some x ↔
      ∃ node, record.lookup name = some node ∧ read node = some x :=
  Option.bind_eq_some_iff

theorem optional?_eq_some_iff {record : List (String × Node)} {name : String}
    {read : Node → Option α} {x : Option α} :
    optional? record name read = some x ↔
      Optionally (fun node x => read node = some x) (record.lookup name) x := by
  unfold optional?
  split
  · next none =>
    rw [none]
    constructor
    · intro same
      obtain rfl := Option.some.inj same
      exact .absent
    · rintro (_ | _ | _)
      rfl
  · next null =>
    rw [null]
    constructor
    · intro same
      obtain rfl := Option.some.inj same
      exact .null
    · rintro (_ | _ | ⟨filled, _⟩)
      · rfl
      · exact absurd rfl filled
  · next node filled found =>
    rw [found, Option.map_eq_some_iff]
    constructor
    · rintro ⟨x, read, rfl⟩
      exact .value filled read
    · rintro (_ | _ | ⟨_, read⟩)
      · exact absurd rfl filled
      · exact ⟨_, read, rfl⟩

end ReadoutControl.Json.Node
