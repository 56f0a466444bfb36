import ReadoutControl.Proofs.Balance.Verdict

set_option autoImplicit false

/-!
What the report of a pass says. It has one entry for each thread of each process whose name contains
the filter, in listing order. An entry is made in the state in which its thread is visited, which is
the one that the settings before it have led to.
-/

namespace ReadoutControl

namespace ProcessTable

variable {σ : Type}

/-- The state after CPUs have been set, if any are due. -/
def afterSetting (table : ProcessTable σ) (tid : UInt32) (due : Option CpuSet) (s : σ) : σ :=
  match due with
  | some cpus => (table.setAffinity s tid cpus).2
  | none => s

end ProcessTable

section Listing

end Listing

namespace ProcessTable

variable {σ : Type} {table : ProcessTable σ} {pins : PinMap} {p : Process}

/-- A thread is settled by the verdict on it, and the table is only asked for CPUs that are due. -/
theorem settle_eq (table : ProcessTable σ) (pins : PinMap) (app : Option String) (thread : Thread)
    (s : σ) :
    table.settle pins app thread s =
      (pins.verdict app thread.name fun cpus => (table.setAffinity s thread.tid cpus).1,
        table.afterSetting thread.tid (pins.due? app thread) s) := by
  cases found : pins.find app thread.name with
  | error miss =>
    have none : pins.due? app thread = none := by
      apply Option.eq_none_iff_forall_not_mem.mpr
      intro cpus due
      exact nomatch found.symm.trans (PinMap.due?_eq_some_iff.mp due).1
    simp only [settle, PinMap.verdict, found, none, afterSetting]
  | ok cpus =>
    cases empty : cpus.isEmpty with
    | true =>
      have none : pins.due? app thread = none := by
        apply Option.eq_none_iff_forall_not_mem.mpr
        intro set due
        obtain ⟨same, something⟩ := PinMap.due?_eq_some_iff.mp due
        obtain rfl := Except.ok.inj (found.symm.trans same)
        exact Bool.false_ne_true (something.symm.trans empty)
      simp [settle, PinMap.verdict, Outcome.ofAnswer, found, empty, none, afterSetting]
    | false =>
      have due : pins.due? app thread = some cpus := PinMap.due?_eq_some_iff.mpr ⟨found, empty⟩
      simp [settle, PinMap.verdict, Outcome.ofAnswer, found, empty, due, afterSetting]

/-- The entry that a pass makes for a thread. -/
def entry (table : ProcessTable σ) (pins : PinMap) (p : Process) (thread : Thread) (s : σ) :
    ThreadReport :=
  ThreadVisit.report ⟨thread, table.affinity s thread.tid, (table.settle pins p.app? thread s).1⟩ p

theorem length_visitProcesses (processes : List Process) (s : σ) :
    (table.visitProcesses pins processes s).1.length = processes.length := by
  induction processes generalizing s with
  | nil => rfl
  | cons p rest ih => rw [visitProcesses_cons, List.length_cons, ih, List.length_cons]

end ProcessTable

end ReadoutControl
