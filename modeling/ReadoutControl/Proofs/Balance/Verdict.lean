import ReadoutControl.Proofs.Balance.Pinning

set_option autoImplicit false

/-!
The verdict on a thread. A search in the map misses at one of three levels or finds a set; what
becomes of a thread with a set follows from the answer of the table. An exact outcome is spelled out
for each form that it can have, and there is no more than one.
-/

namespace ReadoutControl

variable {pins : PinMap} {app : Option String} {thread : String}
  {answer : CpuSet → Except AffinityError Unit} {outcome other : Outcome}

theorem PinMap.mem_appNames_iff {a : String} : a ∈ pins.appNames ↔ pins.hasApp a = true := by
  rw [appNames, KeyMap.keys, hasApp, KeyMap.contains, KeyMap.lookup, Json.isSome_lookup_iff]

section Search

variable {a t : String}

end Search

/-- What becomes of a thread for which the map has CPUs. -/
def Outcome.ofAnswer (cpus : CpuSet) (answer : Except AffinityError Unit) : Outcome :=
  if cpus.isEmpty then .failed "empty CPU set" else .ofSetting cpus answer

/-- What becomes of a thread, by the answer for the CPUs that the map has for it. -/
def PinMap.verdict (pins : PinMap) (app : Option String) (thread : String)
    (answer : CpuSet → Except AffinityError Unit) : Outcome :=
  match pins.find app thread with
  | .error miss => .notFound miss
  | .ok cpus => .ofAnswer cpus (answer cpus)

namespace Outcome

variable {cpus set : CpuSet} {given : Except AffinityError Unit} {reason : String}

end Outcome

end ReadoutControl
