import ReadoutControl.KeyMap

set_option autoImplicit false

/-!
Fields put in key order. Looking a key up afterwards finds the last of its values, and fields that
stand in order already stay as they are.
-/

namespace ReadoutControl.Json

variable {α : Type}

theorem lookup_cons {κ : Type} [DecidableEq κ] (key other : κ) (value : α)
    (rest : List (κ × α)) :
    ((key, value) :: rest).lookup other =
      if other = key then some value else rest.lookup other := by
  by_cases same : other = key
  · simp [same]
  · simp only [List.lookup_cons, beq_eq_false_iff_ne.mpr same, same, if_false]

theorem lookup_map {β : Type} (g : α → β) (fields : List (String × α)) (name : String) :
    (fields.map fun field => (field.1, g field.2)).lookup name = (fields.lookup name).map g := by
  induction fields with
  | nil => rfl
  | cons field rest ih =>
    obtain ⟨key, value⟩ := field
    rw [List.map_cons, lookup_cons, lookup_cons, ih]
    split <;> rfl

theorem isSome_lookup_iff {fields : List (String × α)} {key : String} :
    (fields.lookup key).isSome = true ↔ key ∈ fields.map (·.1) := by
  rw [List.lookup_isSome_iff, List.mem_map]
  exact exists_congr fun field => and_congr_right fun _ => by rw [beq_iff_eq, eq_comm]

/-- From behind the same keys are found. -/
theorem isSome_last_iff {fields : List (String × α)} {key : String} :
    (fields.reverse.lookup key).isSome = true ↔ key ∈ fields.map (·.1) := by
  rw [isSome_lookup_iff, List.map_reverse, List.mem_reverse]

theorem lookup_insertField (key other : String) (value : α) (fields : List (String × α)) :
    (insertField key value fields).lookup other =
      if other = key then some value else fields.lookup other := by
  induction fields with
  | nil => simp [insertField, lookup_cons]
  | cons head rest ih =>
    obtain ⟨k, v⟩ := head
    simp only [insertField]
    split
    · simp [lookup_cons]
    · split
      · next equal =>
        subst equal
        by_cases same : other = key <;> simp [lookup_cons, same]
      · next different =>
        by_cases same : other = k
        · subst same
          simp [Ne.symm different]
        · simp [lookup_cons, same, ih]

/-- Among the fields the last of equal keys is found. -/
theorem lookup_sortFields (fields : List (String × α)) (key : String) :
    (sortFields fields).lookup key = fields.reverse.lookup key := by
  have step (sorted : List (String × α)) :
      (fields.foldl (fun sorted field => insertField field.1 field.2 sorted) sorted).lookup key =
        (fields.reverse.lookup key).or (sorted.lookup key) := by
    induction fields generalizing sorted with
    | nil => simp
    | cons field rest ih =>
      obtain ⟨k, v⟩ := field
      rw [List.foldl_cons, ih, List.reverse_cons, List.lookup_append, lookup_insertField,
        lookup_cons, Option.or_assoc]
      by_cases same : key = k <;> simp [same]
  simpa [sortFields] using step []

theorem lookup_eq_some_of_mem {fields : List (String × α)} (distinct : (fields.map (·.1)).Nodup)
    {key : String} {value : α} (member : (key, value) ∈ fields) :
    fields.lookup key = some value := by
  induction fields with
  | nil => simp at member
  | cons head rest ih =>
    obtain ⟨k, v⟩ := head
    simp only [List.map_cons, List.nodup_cons] at distinct
    rw [lookup_cons]
    rcases List.mem_cons.mp member with same | later
    · obtain ⟨rfl, rfl⟩ := Prod.mk.inj same
      simp
    · have different : key ≠ k := by
        rintro rfl
        exact distinct.1 (List.mem_map.mpr ⟨_, later, rfl⟩)
      simp [different, ih distinct.2 later]

theorem mem_of_lookup_eq_some {fields : List (String × α)} {key : String} {value : α}
    (found : fields.lookup key = some value) : (key, value) ∈ fields := by
  induction fields with
  | nil => simp at found
  | cons head rest ih =>
    obtain ⟨k, v⟩ := head
    rw [lookup_cons] at found
    split at found
    · next same =>
      obtain rfl := Option.some.inj found
      exact same ▸ List.mem_cons_self ..
    · exact List.mem_cons_of_mem _ (ih found)

theorem nodup_keys_of_ordered {fields : List (String × α)}
    (ordered : fields.Pairwise fun a b => a.1 < b.1) : (fields.map (·.1)).Nodup :=
  List.Pairwise.map _ (fun _ _ below => String.ne_of_lt below) ordered

theorem lookup_sortFields_of_nodup {fields : List (String × α)}
    (distinct : (fields.map (·.1)).Nodup) (key : String) :
    (sortFields fields).lookup key = fields.lookup key := by
  rw [lookup_sortFields]
  have distinctReverse : (fields.reverse.map (·.1)).Nodup := by
    rw [List.map_reverse]
    exact List.pairwise_reverse.mpr (distinct.imp Ne.symm)
  apply Option.ext
  intro value
  constructor
  · intro found
    exact lookup_eq_some_of_mem distinct (List.mem_reverse.mp (mem_of_lookup_eq_some found))
  · intro found
    exact lookup_eq_some_of_mem distinctReverse
      (List.mem_reverse.mpr (mem_of_lookup_eq_some found))

theorem mem_sortFields {fields : List (String × α)} {field : String × α}
    (member : field ∈ sortFields fields) : field ∈ fields := by
  have step (fields sorted : List (String × α))
      (found : field ∈ fields.foldl (fun s f => insertField f.1 f.2 s) sorted) :
      field ∈ sorted ∨ field ∈ fields := by
    induction fields generalizing sorted with
    | nil => exact .inl found
    | cons head rest ih =>
      rcases ih (insertField head.1 head.2 sorted) found with early | late
      · rcases KeyMap.mem_insertField early with rfl | early
        · exact .inr (List.mem_cons_self ..)
        · exact .inl early
      · exact .inr (List.mem_cons_of_mem _ late)
  simpa using step fields [] member

/-- A key above all others goes to the end. -/
theorem insertField_of_above {key : String} {value : α} {fields : List (String × α)}
    (above : ∀ field ∈ fields, field.1 < key) :
    insertField key value fields = fields ++ [(key, value)] := by
  induction fields with
  | nil => rfl
  | cons head rest ih =>
    have first := above head (List.mem_cons_self ..)
    have later := ih fun field member => above field (List.mem_cons_of_mem _ member)
    simp [insertField, String.lt_asymm first, (String.ne_of_lt first).symm, later]

theorem sortFields_of_ordered {fields : List (String × α)}
    (ordered : fields.Pairwise fun a b => a.1 < b.1) : sortFields fields = fields := by
  have step (sorted : List (String × α))
      (all : (sorted ++ fields).Pairwise fun a b => a.1 < b.1) :
      fields.foldl (fun s f => insertField f.1 f.2 s) sorted = sorted ++ fields := by
    induction fields generalizing sorted with
    | nil => simp
    | cons head rest ih =>
      have above : ∀ field ∈ sorted, field.1 < head.1 := fun field member =>
        (List.pairwise_append.mp all).2.2 field member head (List.mem_cons_self ..)
      rw [List.foldl_cons, insertField_of_above above,
        ih (List.pairwise_cons.mp ordered).2 _ (by simpa using all)]
      simp
  simpa [sortFields] using step [] (by simpa using ordered)

/-- A key below all others goes to the front, though it is given last. -/
theorem sortFields_concat_of_below {key : String} (value : α) {fields : List (String × α)}
    (below : ∀ field ∈ fields, key < field.1) :
    sortFields (fields ++ [(key, value)]) = (key, value) :: sortFields fields := by
  have last : sortFields (fields ++ [(key, value)]) =
      insertField key value (sortFields fields) := by
    rw [sortFields, List.foldl_append]
    rfl
  rw [last]
  cases sorted : sortFields fields with
  | nil => rfl
  | cons head rest =>
    have first : head ∈ sortFields fields := sorted ▸ List.mem_cons_self
    exact if_pos (below head (mem_sortFields first))

theorem insertField_map {β : Type} (g : α → β) (key : String) (value : α)
    (fields : List (String × α)) :
    insertField key (g value) (fields.map fun field => (field.1, g field.2)) =
      (insertField key value fields).map fun field => (field.1, g field.2) := by
  induction fields with
  | nil => rfl
  | cons head rest ih =>
    simp only [List.map_cons, insertField]
    split
    · rfl
    · split
      · rfl
      · simp [ih]

theorem sortFields_map {β : Type} (g : α → β) (fields : List (String × α)) :
    sortFields (fields.map fun field => (field.1, g field.2)) =
      (sortFields fields).map fun field => (field.1, g field.2) := by
  have step (sorted : List (String × α)) :
      (fields.map fun field => (field.1, g field.2)).foldl
          (fun sorted field => insertField field.1 field.2 sorted)
          (sorted.map fun field => (field.1, g field.2)) =
        (fields.foldl (fun sorted field => insertField field.1 field.2 sorted) sorted).map
          fun field => (field.1, g field.2) := by
    induction fields generalizing sorted with
    | nil => rfl
    | cons field rest ih =>
      simp only [List.map_cons, List.foldl_cons, insertField_map]
      exact ih _
  exact step []

end ReadoutControl.Json
