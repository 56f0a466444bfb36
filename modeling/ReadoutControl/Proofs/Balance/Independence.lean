import Mathlib.Data.List.Perm.Basic
import ReadoutControl.Proofs.Balance.Law

set_option autoImplicit false

/-!
Threads are balanced independently: neither the order in which they are listed nor what becomes of
another thread makes a difference to the entry of a thread or to what it holds afterwards.
-/

namespace ReadoutControl

namespace ThreadReport

variable {tid other : UInt32} {reports first second : List ThreadReport}

/-- Entries of other threads do not count. -/
theorem lastApplied?_filter (different : tid ≠ other) :
    lastApplied? tid (reports.filter (·.tid ≠ other)) = lastApplied? tid reports := by
  induction reports with
  | nil => rfl
  | cons r rest ih =>
    by_cases here : r.tid = other
    · have skipped : r.appliedTo? tid = none := if_neg (here ▸ different.symm)
      rw [List.filter_cons_of_neg (by simp [here]), ih, lastApplied?_cons, skipped, Option.or_none]
    · rw [List.filter_cons_of_pos (by simp [here]), lastApplied?_cons, lastApplied?_cons, ih]

/-- Where every thread has one entry, the order of the entries does not matter. -/
theorem lastApplied?_perm (perm : first.Perm second) (distinct : (first.map (·.tid)).Nodup) :
    lastApplied? tid first = lastApplied? tid second := by
  induction perm with
  | nil => rfl
  | cons r _ ih =>
    rw [lastApplied?_cons, lastApplied?_cons, ih (List.nodup_cons.mp distinct).2]
  | swap early late rest =>
    have one : early.appliedTo? tid = none ∨ late.appliedTo? tid = none := by
      by_cases here : early.tid = tid
      · refine .inr (if_neg fun there => ?_)
        exact (List.nodup_cons.mp distinct).1 (by simp [here, there])
      · exact .inl (if_neg here)
    simp only [lastApplied?_cons, Option.or_assoc]
    rcases one with none | none <;> simp [none]
  | trans perm _ ih later =>
    exact (ih distinct).trans (later ((perm.map _).nodup distinct))

end ThreadReport

namespace AffinityLaw

variable {law other : AffinityLaw}

theorem entry_congr {thread : Thread} (reading : law.reading = other.reading)
    (answer : law.answer thread.tid = other.answer thread.tid) (pins : PinMap)
    (known : UInt32 → Option CpuSet) (p : Process) :
    law.entry pins known p thread = other.entry pins known p thread := by
  simp only [entry, reading, answer]

/-- Laws that differ for one thread make the same entries for the others. -/
theorem filter_entries {x : UInt32} (reading : law.reading = other.reading)
    (answers : ∀ tid, tid ≠ x → law.answer tid = other.answer tid) (pins : PinMap)
    (known : UInt32 → Option CpuSet) (listing : List (Process × Thread)) :
    (listing.map fun listed => law.entry pins known listed.1 listed.2).filter (·.tid ≠ x) =
      (listing.map fun listed => other.entry pins known listed.1 listed.2).filter (·.tid ≠ x) := by
  rw [List.filter_map, List.filter_map]
  apply List.map_congr_left
  intro listed member
  have different : listed.2.tid ≠ x := of_decide_eq_true (List.mem_filter.mp member).2
  exact entry_congr reading (answers _ different) ..

end AffinityLaw

section Comparing

variable {σ τ : Type} {first : ProcessTable σ} {second : ProcessTable τ} {s : σ} {t : τ}

/-- Let two tables list the same threads, each thread once, in any order, and hold the same
affinities. If they answer alike, their passes make the same entries and leave the same affinities.
If the answers differ for one thread, all this is so for the other threads; and where the tables
list in the same order, the entries of the others come in the same order. -/
theorem ProcessTable.balance_independent {held : σ → UInt32 → Option CpuSet}
    {known : τ → UInt32 → Option CpuSet} {law other : AffinityLaw}
    (keeps : first.Keeps held) (keepsToo : second.Keeps known)
    (obeys : first.Obeys held law s) (obeysToo : second.Obeys known other t)
    (reading : law.reading = other.reading)
    (listed : (first.listing (first.processes s) s).Perm (second.listing (second.processes t) t))
    (distinct : ((first.listing (first.processes s) s).map (·.2.tid)).Nodup)
    (start : held s = known t) (pins : PinMap) (filter : String) :
    (law.answer = other.answer →
        (first.balance pins filter s).1.threads.Perm (second.balance pins filter t).1.threads ∧
          held (first.balance pins filter s).2 = known (second.balance pins filter t).2) ∧
      ∀ x, (∀ tid, tid ≠ x → law.answer tid = other.answer tid) →
        ((first.balance pins filter s).1.threads.filter (·.tid ≠ x)).Perm
            ((second.balance pins filter t).1.threads.filter (·.tid ≠ x)) ∧
          (∀ tid, tid ≠ x → held (first.balance pins filter s).2 tid =
            known (second.balance pins filter t).2 tid) ∧
          (first.listing (first.processes s) s = second.listing (second.processes t) t →
            (first.balance pins filter s).1.threads.filter (·.tid ≠ x) =
              (second.balance pins filter t).1.threads.filter (·.tid ≠ x)) := by
  have distinctToo : ((second.listing (second.processes t) t).map (·.2.tid)).Nodup :=
    (listed.map _).nodup distinct
  have selected : (first.listing (first.selected filter s) s).Perm
      (second.listing (second.selected filter t) t) := by
    rw [listing_selected, listing_selected]
    exact listed.filter _
  have reports := keeps.balance_reports obeys distinct pins filter
  have reportsToo := keepsToo.balance_reports obeysToo distinctToo pins filter
  have once := keeps.balance_distinct obeys distinct pins filter
  rw [← start] at reportsToo
  constructor
  · intro answers
    have perm : (first.balance pins filter s).1.threads.Perm
        (second.balance pins filter t).1.threads := by
      have same (listed : Process × Thread) : law.entry pins (held s) listed.1 listed.2 =
          other.entry pins (held s) listed.1 listed.2 :=
        AffinityLaw.entry_congr reading (congrFun answers _) ..
      simp only [reports, reportsToo, same]
      exact selected.map _
    refine ⟨perm, funext fun tid => ?_⟩
    rw [keeps.balance_held, keepsToo.balance_held, ThreadReport.lastApplied?_perm perm once, start]
  · intro x answers
    have filtered := AffinityLaw.filter_entries reading answers pins (held s)
      (first.listing (first.selected filter s) s)
    rw [← reports] at filtered
    have perm : ((first.balance pins filter s).1.threads.filter (·.tid ≠ x)).Perm
        ((second.balance pins filter t).1.threads.filter (·.tid ≠ x)) := by
      rw [filtered, reportsToo]
      exact (selected.map _).filter _
    refine ⟨perm, ?_, ?_⟩
    · intro tid different
      have onceOther := once.sublist ((List.filter_sublist (p := (·.tid ≠ x))).map _)
      rw [keeps.balance_held, keepsToo.balance_held, ← ThreadReport.lastApplied?_filter different,
        ThreadReport.lastApplied?_perm perm onceOther, ThreadReport.lastApplied?_filter different,
        start]
    · intro order
      rw [filtered, reportsToo, listing_selected, listing_selected, order]

end Comparing

/-- Two processes are listed in either order. With the same answers the entries are the same; if one
thread is refused in the second table, those of the others are. -/
theorem ProcessTable.balance_independent_reversed :
    ∃ (t reversed refusing : ThreadTable) (pins : PinMap),
      t = ⟨4, [⟨300, "appA", ["daq_application", "--name", "appA"], 0⟩,
          ⟨400, "appB", ["daq_application", "--name", "appB"], 0⟩],
        [(300, [⟨301, "x"⟩, ⟨302, "y"⟩], []), (400, [⟨401, "x"⟩], [])],
        [(301, .below 4), (302, .below 4), (401, .below 4)], []⟩ ∧
      reversed = { t with processes := t.processes.reverse } ∧
      refusing = { reversed with faults := [(301, ⟨.denied, false⟩)] } ∧
      pins = ⟨.ofList [("appA", .ofList [("x", .ofList [0]), ("y", .ofList [64])]),
        ("appB", .ofList [("x", .ofList [2, 3])])]⟩ ∧
      (ThreadTable.access.balance pins "app" t).1.threads.Perm
        (ThreadTable.access.balance pins "app" reversed).1.threads ∧
      ((ThreadTable.access.balance pins "app" t).1.threads.filter (·.tid ≠ 301)).Perm
          ((ThreadTable.access.balance pins "app" refusing).1.threads.filter (·.tid ≠ 301)) ∧
        ∀ tid, tid ≠ 301 → (ThreadTable.access.balance pins "app" t).2.affinities.lookup tid =
          (ThreadTable.access.balance pins "app" refusing).2.affinities.lookup tid := by
  refine ⟨_, _, _, _, rfl, rfl, rfl, rfl, ?_, ?_⟩
  · refine ((balance_independent ThreadTable.access_keeps ThreadTable.access_keeps
      (ThreadTable.access_obeys _) (ThreadTable.access_obeys _) ?_ ?_ ?_ ?_ _ _).1 ?_).1
    · rfl
    · decide +kernel
    · decide +kernel
    · rfl
    · rfl
  · refine ((balance_independent ThreadTable.access_keeps ThreadTable.access_keeps
      (ThreadTable.access_obeys _) (ThreadTable.access_obeys _) ?_ ?_ ?_ ?_ _ _).2 301 ?_).imp_right
        And.left
    · funext tid known
      by_cases here : tid = 301 <;>
        simp [ThreadTable.lawOf, ThreadTable.affinity, Json.lookup_cons, here] <;> rfl
    · decide +kernel
    · decide +kernel
    · rfl
    · intro tid other
      funext cpus
      simp only [ThreadTable.lawOf, ThreadTable.setAffinity, Json.lookup_cons, other, if_false,
        List.lookup_nil]
      cases cpus.beyond? 4 <;> rfl

end ReadoutControl
