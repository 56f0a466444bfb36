import Mathlib.Data.List.Nodup
import ReadoutControl.Proofs.Json.Object
import ReadoutControl.Proofs.Text.Numbered
import ReadoutControl.Topology.Queue

set_option autoImplicit false

/-!
Numbers of links as they are written: numbers that fit keep their value, and of connections that are
numbered in a row each is the only one with its name.
-/

namespace ReadoutControl

open Text (numbered)

/-- Link numbers that fit are written as they are. -/
theorem Json.sorted_links {numbers : List Nat} (small : ∀ i ∈ numbers, i < UInt32.size) :
    (Json.arr ((numbers.map UInt32.ofNat).map fun n => .ofNat n.toNat)).sorted =
      .arr (numbers.map .ofNat) := by
  have same : ((numbers.map UInt32.ofNat).map fun n => Json.ofNat n.toNat) =
      numbers.map .ofNat := by
    rw [List.map_map]
    apply List.map_congr_left
    intro i number
    rw [Function.comp_apply, UInt32.toNat_ofNat_of_lt' (small i number)]
  rw [same, Json.sorted_numbers]

namespace Connection

variable {stem : String} {numbers : List Nat} {queues : Nat → String} {l : Nat}

/-- Of outputs numbered in a row one has the name. -/
theorem filter_numbered (plain : Text.isStem stem = true) (distinct : numbers.Nodup)
    (number : l ∈ numbers) :
    (numbers.map fun i => output (numbered stem i) (queues i)).filter
        (·.name = numbered stem l) = [output (numbered stem l) (queues l)] := by
  have same (i : Nat) : numbered stem i = numbered stem l ↔ i = l := by
    rw [Text.numbered_inj plain plain, and_iff_right rfl]
  have once : numbers.filter (fun i => numbered stem i = numbered stem l) = [l] := by
    simp only [same, List.filter_eq, List.count_eq_one_of_mem distinct number,
      List.replicate_one]
  rw [List.filter_map]
  exact congrArg (List.map _) once

/-- None has the name with another stem. -/
theorem filter_numbered_of_ne {other : String} (plain : Text.isStem stem = true)
    (otherPlain : Text.isStem other = true) (different : stem ≠ other) :
    (numbers.map fun i => output (numbered stem i) (queues i)).filter
        (·.name = numbered other l) = [] := by
  apply List.filter_eq_nil_iff.mpr
  intro c member
  obtain ⟨i, _, rfl⟩ := List.mem_map.mp member
  simp [output, Text.numbered_inj plain otherPlain, different]

end Connection

end ReadoutControl
