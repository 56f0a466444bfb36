import Mathlib.Data.List.Nodup
import ReadoutControl.Proofs.Command.Acceptance
import ReadoutControl.Proofs.Json.Object

set_option autoImplicit false

/-!
What a command sets. Where no two entries of a command have the same address, the payload of each is
found under its address, and its fields have the values they were given.
-/

namespace ReadoutControl

/-- Where keys are distinct, a member is the first with its key. -/
theorem find?_of_mem {α κ : Type} [DecidableEq κ] {key : α → κ} {xs : List α}
    (distinct : (xs.map key).Nodup) {x : α} (member : x ∈ xs) :
    xs.find? (key · = key x) = some x := by
  cases found : xs.find? (key · = key x) with
  | none => simpa using List.find?_eq_none.mp found x member
  | some other =>
    have same : key other = key x := by simpa using List.find?_some found
    obtain rfl := List.inj_on_of_nodup_map distinct (List.mem_of_find?_eq_some found) member same
    rfl

namespace Command

/-- The value that the payload for an address gives to a field. -/
def setting? (c : Command) (target field : String) : Option Json :=
  (c.payloadFor? target).bind (·.field? field)

variable {c : Command}

theorem payloadFor?_of_mem (distinct : (c.targets.map Address.text).Nodup) {entry : Addressed}
    (member : entry ∈ c.addressed) : c.payloadFor? entry.target.text = entry.payload := by
  rw [targets, List.map_map] at distinct
  have found : c.addressed.find? (·.target.text = entry.target.text) = some entry :=
    find?_of_mem distinct member
  rw [payloadFor?, found, Option.bind_some]

/-- A field of a payload is set to the value it is written with. -/
theorem setting?_of_mem (distinct : (c.targets.map Address.text).Nodup) (target : Address)
    {payload : Json} (member : .ofPayload target payload ∈ c.addressed)
    (keys : payload.keys.Nodup) (name : String) :
    c.setting? target.text name = (payload.field? name).map Json.sorted := by
  have found := payloadFor?_of_mem distinct member
  simp only [Addressed.ofPayload] at found
  rw [setting?, found, Option.bind_some, Json.field?_sorted keys]

end Command

end ReadoutControl
