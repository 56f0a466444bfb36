import ReadoutControl.Json.Basic

set_option autoImplicit false

/-!
Finite maps from texts, with their entries in key order. Two maps with the same entries are equal.
-/

namespace ReadoutControl

structure KeyMap (α : Type) where
  entries : List (String × α)
  ordered : entries.Pairwise fun a b => a.1 < b.1

namespace KeyMap

variable {α : Type}

theorem mem_insertField {key : String} {value : α} {fields : List (String × α)}
    {field : String × α} (h : field ∈ Json.insertField key value fields) :
    field = (key, value) ∨ field ∈ fields := by
  induction fields with
  | nil => simpa [Json.insertField] using h
  | cons head rest ih =>
    simp only [Json.insertField] at h
    split at h
    · simpa using h
    · split at h
      · rcases List.mem_cons.mp h with rfl | h
        · exact .inl rfl
        · exact .inr (List.mem_cons_of_mem _ h)
      · rcases List.mem_cons.mp h with rfl | h
        · exact .inr (List.mem_cons_self ..)
        · exact (ih h).imp_right (List.mem_cons_of_mem _)

theorem ordered_insertField (key : String) (value : α) {fields : List (String × α)}
    (h : fields.Pairwise fun a b => a.1 < b.1) :
    (Json.insertField key value fields).Pairwise fun a b => a.1 < b.1 := by
  induction fields with
  | nil => simp [Json.insertField]
  | cons head rest ih =>
    have ⟨first, later⟩ := List.pairwise_cons.mp h
    simp only [Json.insertField]
    split
    · next lower =>
      refine List.pairwise_cons.mpr ⟨fun field hf => ?_, h⟩
      rcases List.mem_cons.mp hf with rfl | hf
      · exact lower
      · exact String.lt_trans lower (first field hf)
    · split
      · next same =>
        subst same
        exact List.pairwise_cons.mpr ⟨fun field hf => first field hf, later⟩
      · next notLower notSame =>
        refine List.pairwise_cons.mpr ⟨fun field hf => ?_, ih later⟩
        rcases mem_insertField hf with rfl | hf
        · exact Std.lt_of_le_of_ne (String.not_lt.mp notLower) (Ne.symm notSame)
        · exact first field hf

theorem ordered_sortFields (fields : List (String × α)) :
    (Json.sortFields fields).Pairwise fun a b => a.1 < b.1 := by
  have step (sorted : List (String × α)) (h : sorted.Pairwise fun a b => a.1 < b.1) :
      (fields.foldl (fun sorted field => Json.insertField field.1 field.2 sorted) sorted).Pairwise
        fun a b => a.1 < b.1 := by
    induction fields generalizing sorted with
    | nil => exact h
    | cons field rest ih => exact ih _ (ordered_insertField field.1 field.2 h)
  exact step [] .nil

/-- The map of a list of entries, in which the last of equal keys stands. -/
def ofList (fields : List (String × α)) : KeyMap α :=
  ⟨Json.sortFields fields, ordered_sortFields fields⟩

def lookup (m : KeyMap α) (key : String) : Option α := m.entries.lookup key

def contains (m : KeyMap α) (key : String) : Bool := (m.lookup key).isSome

def keys (m : KeyMap α) : List String := m.entries.map (·.1)

def isEmpty (m : KeyMap α) : Bool := m.entries.isEmpty

@[ext] theorem ext {m n : KeyMap α} (h : m.entries = n.entries) : m = n := by
  cases m
  cases n
  simpa using h

end KeyMap

end ReadoutControl
