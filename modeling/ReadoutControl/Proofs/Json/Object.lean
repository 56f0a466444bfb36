import ReadoutControl.Proofs.Json.Record

set_option autoImplicit false

/-!
Looking into objects. Where no key stands twice, putting the keys in order changes no field but for
the order of the keys inside it.
-/

namespace ReadoutControl.Json

/-- The value of a field of an object. -/
def field? : Json → String → Option Json
  | .obj fields, name => fields.lookup name
  | _, _ => none

/-- The keys of an object, in the order of its fields. -/
def keys : Json → List String
  | .obj fields => fields.map (·.1)
  | _ => []

theorem field?_sorted {v : Json} (distinct : v.keys.Nodup) (name : String) :
    v.sorted.field? name = (v.field? name).map sorted := by
  cases v with
  | obj fields =>
    have kept : ((fields.map fun field => (field.1, field.2.sorted)).map (·.1)).Nodup := by
      simpa [keys, Function.comp_def] using distinct
    rw [sorted, sortedFields_eq, field?, lookup_sortFields_of_nodup kept, lookup_map, field?]
  | _ => rfl

theorem keys_optionalField (name : String) (value : Option Json) :
    ((optionalField name value).map (·.1)).Sublist [name] := by
  cases value with
  | none => exact List.nil_sublist [name]
  | some v => exact List.Sublist.refl [name]

theorem sorted_numbers (numbers : List Nat) :
    (Json.arr (numbers.map .ofNat)).sorted = .arr (numbers.map .ofNat) := by
  rw [sorted, sortedItems_eq, List.map_map]
  rfl

theorem ofNat_inj {i j : Nat} : ofNat i = ofNat j ↔ i = j := by
  rw [ofNat, ofNat, Json.int.injEq, Int.ofNat_inj]

end ReadoutControl.Json
