import ReadoutControl.Balance.Outcome
import ReadoutControl.Proofs.Json.Legible
import ReadoutControl.Proofs.Json.Object

set_option autoImplicit false

/-!
Nothing of a report is lost in its JSON text. What a report is made of is written in ways of its
own, each telling all of its cases apart, and the text shows the whole of what was written.
-/

namespace ReadoutControl

open Json

theorem CpuSet.toJson_inj {s t : CpuSet} (same : s.toJson = t.toJson) : s = t := by
  obtain ⟨cpus, ordered⟩ := s
  obtain ⟨others, ordered'⟩ := t
  have numbers (a b : UInt64) (equal : Json.ofNat a.toNat = .ofNat b.toNat) : a = b :=
    UInt64.toNat_inj.mp (ofNat_inj.mp equal)
  obtain rfl := (List.map_inj_right numbers).mp (Json.arr.inj same)
  rfl

namespace Json

/-- A value that may be absent is told from an absent one, if it is never null itself. -/
theorem getD_null_inj {α : Type} {write : α → Json} (injective : Function.Injective write)
    (some_value : ∀ x, write x ≠ .null) {x y : Option α}
    (same : (x.map write).getD .null = (y.map write).getD .null) : x = y := by
  cases x with
  | none =>
    cases y with
    | none => rfl
    | some y => exact absurd same.symm (some_value y)
  | some x =>
    cases y with
    | none => exact absurd same (some_value x)
    | some y => exact congrArg some (injective same)

theorem floats_arr_map {α : Type} {write : α → Json} {xs : List α}
    (each : ∀ x ∈ xs, (write x).floats = []) : (Json.arr (xs.map write)).floats = [] := by
  simp only [List.eq_nil_iff_forall_not_mem, mem_floats_arr, List.mem_map] at each ⊢
  rintro number ⟨_, ⟨x, member, rfl⟩, inside⟩
  exact each x member number inside

end Json

theorem LookupMiss.toJson_inj {m n : LookupMiss} (same : m.toJson = n.toJson) : m = n := by
  cases m <;> cases n <;> simp_all [toJson]

theorem Outcome.toJson_inj {o p : Outcome} (same : o.toJson = p.toJson) : o = p := by
  cases o <;> cases p <;> simp_all [toJson]
  · exact CpuSet.toJson_inj same
  · exact LookupMiss.toJson_inj same

theorem ThreadReport.toJson_inj {r s : ThreadReport} (same : r.toJson = s.toJson) : r = s := by
  obtain ⟨pid, process, app, tid, thread, previous, outcome⟩ := r
  obtain ⟨pid', process', app', tid', thread', previous', outcome'⟩ := s
  simp only [toJson, Json.obj.injEq, List.cons.injEq, Prod.mk.injEq, true_and, and_true,
    Json.str.injEq, ofNat_inj, UInt32.toNat_inj] at same
  obtain ⟨rfl, rfl, apps, rfl, rfl, cpus, outcomes⟩ := same
  obtain rfl : app = app' := getD_null_inj (fun _ _ => Json.str.inj) (by simp) apps
  obtain rfl : previous = previous' :=
    getD_null_inj (fun _ _ => CpuSet.toJson_inj) (by simp [CpuSet.toJson]) cpus
  obtain rfl := Outcome.toJson_inj outcomes
  rfl

theorem BalanceReport.toJson_inj {r s : BalanceReport} (same : r.toJson = s.toJson) : r = s := by
  obtain ⟨filter, matched, threads⟩ := r
  obtain ⟨filter', matched', threads'⟩ := s
  simp only [toJson, Json.obj.injEq, List.cons.injEq, Prod.mk.injEq, true_and, and_true,
    Json.str.injEq, ofNat_inj, Json.arr.injEq] at same
  obtain ⟨rfl, rfl, entries⟩ := same
  obtain rfl := (List.map_inj_right fun _ _ => ThreadReport.toJson_inj).mp entries
  rfl

section Exact

theorem CpuSet.floats_toJson (s : CpuSet) : s.toJson.floats = [] :=
  floats_arr_map fun _ _ => rfl

theorem LookupMiss.floats_toJson (m : LookupMiss) : m.toJson.floats = [] := by
  cases m <;> rfl

theorem Outcome.floats_toJson (o : Outcome) : o.toJson.floats = [] := by
  cases o with
  | applied cpus => simp [toJson, floats, floatsOfFields, cpus.floats_toJson]
  | notFound miss => simp [toJson, floats, floatsOfFields, miss.floats_toJson]
  | permissionDenied => rfl
  | failed reason => rfl

theorem ThreadReport.floats_toJson (r : ThreadReport) : r.toJson.floats = [] := by
  obtain ⟨pid, process, app, tid, thread, previous, outcome⟩ := r
  cases app <;> cases previous <;>
    simp [toJson, floats, floatsOfFields, ofNat, CpuSet.floats_toJson, outcome.floats_toJson]

theorem BalanceReport.floats_toJson (r : BalanceReport) : r.toJson.floats = [] := by
  have threads : (Json.arr (r.threads.map ThreadReport.toJson)).floats = [] :=
    floats_arr_map fun t _ => t.floats_toJson
  simpa [toJson, floats, floatsOfFields, ofNat] using threads

end Exact

/-- Two reports that show the same text are the same, in every field of every thread. -/
theorem BalanceReport.jsonText_inj (r s : BalanceReport) : r.jsonText = s.jsonText ↔ r = s :=
  ⟨fun same => toJson_inj (report_inj r.floats_toJson s.floats_toJson same), congrArg jsonText⟩

end ReadoutControl
