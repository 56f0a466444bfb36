import ReadoutControl.Proofs.Balance.Reporting

set_option autoImplicit false

/-!
Tables that answer by a law: on setting by the thread and the set, on reading by what the thread
holds. If such a table keeps what it is told and lists every thread once, the entries of a pass
follow from what the threads held at the start. The table held in memory is one of these.
-/

namespace ReadoutControl

/-- How a table answers: on setting by the thread and the set, on reading by the thread and what it
holds. -/
structure AffinityLaw where
  answer : UInt32 → CpuSet → Except AffinityError Unit
  reading : UInt32 → Option CpuSet → Except AffinityError CpuSet

/-- The entry for a thread under a law, by what threads hold. -/
def AffinityLaw.entry (law : AffinityLaw) (pins : PinMap) (known : UInt32 → Option CpuSet)
    (p : Process) (thread : Thread) : ThreadReport where
  pid := p.pid
  process := p.name
  app := p.app?
  tid := thread.tid
  thread := thread.name
  previous := (law.reading thread.tid (known thread.tid)).toOption
  outcome := pins.verdict p.app? thread.name (law.answer thread.tid)

namespace ProcessTable

variable {σ : Type}

/-- The states that settings lead to. -/
inductive Reached (table : ProcessTable σ) (s : σ) : σ → Prop
  | start : Reached table s s
  | set {t} (tid : UInt32) (cpus : CpuSet) :
      Reached table s t → Reached table s (table.setAffinity t tid cpus).2

/-- From a state on the table answers by a law. -/
structure Obeys (table : ProcessTable σ) (held : σ → UInt32 → Option CpuSet) (law : AffinityLaw)
    (s : σ) : Prop where
  answers : ∀ t, table.Reached s t → ∀ tid cpus,
    (table.setAffinity t tid cpus).1 = law.answer tid cpus
  reads : ∀ t, table.Reached s t → ∀ tid, table.affinity t tid = law.reading tid (held t tid)

/-- The threads of processes, each with its process, in listing order. -/
def listing (table : ProcessTable σ) (processes : List Process) (s : σ) : List (Process × Thread) :=
  processes.flatMap fun p => (table.threads s p.pid).map fun thread => (p, thread)

section Listing

theorem listing_cons (table : ProcessTable σ) (p : Process) (rest : List Process) (s : σ) :
    table.listing (p :: rest) s =
      (table.threads s p.pid).map (fun thread => (p, thread)) ++ table.listing rest s := rfl

theorem listing_filter (table : ProcessTable σ) (keep : Process → Bool)
    (processes : List Process) (s : σ) :
    table.listing (processes.filter keep) s = (table.listing processes s).filter (keep ·.1) := by
  induction processes with
  | nil => rfl
  | cons p rest ih =>
    rw [listing_cons, List.filter_append, ← ih]
    cases kept : keep p with
    | true =>
      have all : ((table.threads s p.pid).map fun thread => (p, thread)).filter (keep ·.1) =
          (table.threads s p.pid).map fun thread => (p, thread) :=
        List.filter_eq_self.mpr (by simp [kept])
      rw [List.filter_cons_of_pos kept, listing_cons, all]
    | false => simp [List.filter_map, Function.comp_def, kept]

theorem listing_selected (table : ProcessTable σ) (filter : String) (s : σ) :
    table.listing (table.selected filter s) s =
      (table.listing (table.processes s) s).filter (·.1.matchesFilter filter) :=
  table.listing_filter ..

end Listing

end ProcessTable

theorem ThreadReport.lastApplied?_of_absent {tid : UInt32} {reports : List ThreadReport}
    (absent : ∀ r ∈ reports, r.tid ≠ tid) :
    lastApplied? tid reports = none := by
  have nothing : reports.filterMap (·.appliedTo? tid) = [] := by
    apply List.filterMap_eq_nil_iff.mpr
    intro r member
    exact if_neg (absent r member)
  rw [lastApplied?, nothing]
  rfl

namespace ProcessTable

variable {σ : Type} {table : ProcessTable σ} {pins : PinMap} {p : Process} {s t : σ}
  {law : AffinityLaw} {held : σ → UInt32 → Option CpuSet}

section Reaching

theorem Reached.trans {u : σ} (first : table.Reached s t) (later : table.Reached t u) :
    table.Reached s u := by
  induction later with
  | start => exact first
  | set tid cpus _ ih => exact .set tid cpus ih

theorem reached_settle (table : ProcessTable σ) (pins : PinMap) (app : Option String)
    (thread : Thread) (s : σ) : table.Reached s (table.settle pins app thread s).2 := by
  rw [settle_eq]
  cases pins.due? app thread with
  | none => exact .start
  | some cpus => exact .set thread.tid cpus .start

theorem reached_visitThreads (table : ProcessTable σ) (pins : PinMap) (app : Option String)
    (threads : List Thread) (s : σ) :
    table.Reached s (table.visitThreads pins app threads s).2 := by
  induction threads generalizing s with
  | nil => exact .start
  | cons thread rest ih => exact (table.reached_settle pins app thread s).trans (ih _)

theorem Obeys.of_reached (obeys : table.Obeys held law s) (reached : table.Reached s t) :
    table.Obeys held law t where
  answers u later := obeys.answers u (reached.trans later)
  reads u later := obeys.reads u (reached.trans later)

end Reaching

theorem Obeys.entry_eq (obeys : table.Obeys held law s) (thread : Thread) :
    table.entry pins p thread s = law.entry pins (held s) p thread := by
  have answers : (fun cpus => (table.setAffinity s thread.tid cpus).1) = law.answer thread.tid :=
    funext fun cpus => obeys.answers s .start thread.tid cpus
  rw [entry, settle_eq, answers, obeys.reads s .start]
  rfl

theorem visitThreads_thread (table : ProcessTable σ) (pins : PinMap) (app : Option String)
    (threads : List Thread) (s : σ) :
    (table.visitThreads pins app threads s).1.map (·.thread) = threads := by
  induction threads generalizing s with
  | nil => rfl
  | cons thread rest ih => exact congrArg (thread :: ·) (ih _)

section Keeping

variable (keeps : table.Keeps held)

include keeps

/-- Settling a thread leaves the others with what they hold. -/
theorem Keeps.settle_others {thread : Thread} {tid : UInt32} (other : thread.tid ≠ tid) :
    held (table.settle pins p.app? thread s).2 tid = held s tid := by
  rw [keeps.settle_held, if_neg other, Option.none_or]

theorem Keeps.visitThreads_others {threads : List Thread} {tid : UInt32}
    (others : ∀ thread ∈ threads, thread.tid ≠ tid) :
    held (table.visitThreads pins p.app? threads s).2 tid = held s tid := by
  rw [keeps.visitThreads_held p, ThreadReport.lastApplied?_of_absent, Option.none_or]
  intro r member
  obtain ⟨v, visited, rfl⟩ := List.mem_map.mp member
  apply others v.thread
  rw [← table.visitThreads_thread pins p.app? threads s]
  exact List.mem_map_of_mem visited

theorem Keeps.visitThreads_reports (obeys : table.Obeys held law s) {threads : List Thread}
    (distinct : (threads.map (·.tid)).Nodup) :
    (table.visitThreads pins p.app? threads s).1.map (·.report p) =
      threads.map (law.entry pins (held s) p) := by
  induction threads generalizing s with
  | nil => rfl
  | cons thread rest ih =>
    obtain ⟨fresh, distinct⟩ := List.nodup_cons.mp distinct
    have reached := table.reached_settle pins p.app? thread s
    have first : table.entry pins p thread s = law.entry pins (held s) p thread :=
      obeys.entry_eq thread
    have later : rest.map (law.entry pins (held (table.settle pins p.app? thread s).2) p) =
        rest.map (law.entry pins (held s) p) := by
      apply List.map_congr_left
      intro next member
      have other : thread.tid ≠ next.tid := by
        intro same
        exact fresh (List.mem_map.mpr ⟨next, member, same.symm⟩)
      simp only [AffinityLaw.entry, keeps.settle_others other]
    rw [visitThreads_cons, List.map_cons, List.map_cons, ih (obeys.of_reached reached) distinct,
      later, ← first]
    rfl

/-- Every entry of a pass follows from what its thread held at the start. -/
theorem Keeps.visitProcesses_reports (obeys : table.Obeys held law s) {processes : List Process}
    (distinct : ((table.listing processes s).map (·.2.tid)).Nodup) :
    (table.visitProcesses pins processes s).1.flatMap ProcessVisit.reports =
      (table.listing processes s).map fun listed => law.entry pins (held s) listed.1 listed.2 := by
  induction processes generalizing s with
  | nil => rfl
  | cons p rest ih =>
    rw [listing_cons, List.map_append, List.nodup_append, List.map_map] at distinct
    obtain ⟨own, others, apart⟩ := distinct
    have reached := table.reached_visitThreads pins p.app? (table.threads s p.pid) s
    have listed : table.listing rest (table.visitThreads pins p.app? (table.threads s p.pid) s).2 =
        table.listing rest s := by
      simp only [listing, keeps.visitThreads_threads]
    have later := ih (obeys.of_reached reached) (listed ▸ others)
    rw [visitProcesses_cons, listing_cons, List.flatMap_cons, List.map_append, List.map_map, later,
      listed]
    congr 1
    · exact keeps.visitThreads_reports obeys own
    · apply List.map_congr_left
      intro next member
      have other : ∀ thread ∈ table.threads s p.pid, thread.tid ≠ next.2.tid := by
        intro thread here
        exact apart thread.tid (List.mem_map_of_mem here) next.2.tid (List.mem_map_of_mem member)
      simp only [AffinityLaw.entry, keeps.visitThreads_others other]

theorem Keeps.balance_reports (obeys : table.Obeys held law s)
    (distinct : ((table.listing (table.processes s) s).map (·.2.tid)).Nodup) (pins : PinMap)
    (filter : String) :
    (table.balance pins filter s).1.threads =
      (table.listing (table.selected filter s) s).map fun listed =>
        law.entry pins (held s) listed.1 listed.2 := by
  apply keeps.visitProcesses_reports obeys
  rw [listing_selected]
  exact distinct.sublist (List.filter_sublist.map _)

theorem Keeps.balance_held (pins : PinMap) (filter : String) (s : σ) (tid : UInt32) :
    held (table.balance pins filter s).2 tid =
      (ThreadReport.lastApplied? tid (table.balance pins filter s).1.threads).or (held s tid) :=
  keeps.visitProcesses_held (table.selected filter s) s tid

/-- Threads that are listed once have one entry at most. -/
theorem Keeps.balance_distinct (obeys : table.Obeys held law s)
    (distinct : ((table.listing (table.processes s) s).map (·.2.tid)).Nodup) (pins : PinMap)
    (filter : String) : ((table.balance pins filter s).1.threads.map (·.tid)).Nodup := by
  rw [keeps.balance_reports obeys distinct, List.map_map, listing_selected]
  exact distinct.sublist (List.filter_sublist.map _)

end Keeping

end ProcessTable

namespace ThreadTable

/-- The answers for a number of CPUs and the faults of threads. -/
def lawOf (cpuCount : Nat) (faults : List (UInt32 × ThreadFault)) : AffinityLaw where
  answer tid cpus := (setAffinity ⟨cpuCount, [], [], [], faults⟩ tid cpus).1
  reading tid known :=
    affinity ⟨cpuCount, [], [], (known.map fun cpus => (tid, cpus)).toList, faults⟩ tid

theorem law_of_reached {t u : ThreadTable} (reached : access.Reached t u) :
    u.cpuCount = t.cpuCount ∧ u.faults = t.faults := by
  induction reached with
  | start => exact ⟨rfl, rfl⟩
  | set tid cpus _ ih =>
    rename_i u _
    rcases u.setAffinity_cases tid cpus with ⟨e, outcome⟩ | outcome <;>
      simpa only [access, outcome] using ih

theorem setAffinity_answer (t : ThreadTable) (tid : UInt32) (cpus : CpuSet) :
    (t.setAffinity tid cpus).1 = (lawOf t.cpuCount t.faults).answer tid cpus := by
  simp only [lawOf, setAffinity]
  cases t.faults.lookup tid with
  | some fault => rfl
  | none => cases cpus.beyond? t.cpuCount <;> rfl

theorem affinity_reading (t : ThreadTable) (tid : UInt32) :
    t.affinity tid = (lawOf t.cpuCount t.faults).reading tid (t.affinities.lookup tid) := by
  simp only [lawOf, affinity, stored]
  cases t.affinities.lookup tid <;> simp

theorem access_obeys (t : ThreadTable) :
    access.Obeys (fun t tid => t.affinities.lookup tid) (lawOf t.cpuCount t.faults) t where
  answers u reached tid cpus := by
    obtain ⟨count, faults⟩ := law_of_reached reached
    rw [← count, ← faults]
    exact u.setAffinity_answer tid cpus
  reads u reached tid := by
    obtain ⟨count, faults⟩ := law_of_reached reached
    rw [← count, ← faults]
    exact u.affinity_reading tid

end ThreadTable

end ReadoutControl
