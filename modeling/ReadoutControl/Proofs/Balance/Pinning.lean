import ReadoutControl.Balance.Pass
import ReadoutControl.Proofs.Balance.Keeping

set_option autoImplicit false

/-!
What a pass does to the CPUs of threads. The settings that it tries are seen through a table that
notes them: they are those that are due, in listing order. What a thread holds afterwards is read off
the report: the last set that was applied to it, or what it held before.
-/

namespace ReadoutControl

/-- The filter occurs in the name of the process. -/
def Process.Selected (p : Process) (filter : String) : Prop := filter.toList <:+: p.name.toList

/-- The CPUs that a thread of an application is to be given: a set of the map that is not empty. -/
def PinMap.due? (pins : PinMap) (app : Option String) (thread : Thread) : Option CpuSet :=
  (app.bind fun app => pins.lookup app thread.name).filter fun cpus => !cpus.isEmpty

/-- The set that was applied. -/
def Outcome.cpus? : Outcome → Option CpuSet
  | applied cpus => some cpus
  | _ => none

/-- The set that was applied to the thread of that number. -/
def ThreadReport.appliedTo? (r : ThreadReport) (tid : UInt32) : Option CpuSet :=
  if r.tid = tid then r.outcome.cpus? else none

/-- The set of the last entry for the thread whose outcome is that a set was applied. -/
def ThreadReport.lastApplied? (tid : UInt32) (reports : List ThreadReport) : Option CpuSet :=
  (reports.filterMap (·.appliedTo? tid)).getLast?

namespace ProcessTable

variable {σ : Type}

/-- The table with a note of every setting that is tried, failed ones too. -/
def noting (table : ProcessTable σ) : ProcessTable (σ × List (UInt32 × CpuSet)) where
  processes s := table.processes s.1
  threads s := table.threads s.1
  sockets s := table.sockets s.1
  affinity s := table.affinity s.1
  setAffinity s tid cpus :=
    ((table.setAffinity s.1 tid cpus).1,
      ((table.setAffinity s.1 tid cpus).2, s.2 ++ [(tid, cpus)]))

/-- What is to be set for threads of an application. -/
def dueThreads (pins : PinMap) (app : Option String) (threads : List Thread) :
    List (UInt32 × CpuSet) :=
  threads.filterMap fun thread => (pins.due? app thread).map fun cpus => (thread.tid, cpus)

/-- What is to be set for the threads of processes, in listing order. -/
def dueProcesses (table : ProcessTable σ) (pins : PinMap) (processes : List Process) (s : σ) :
    List (UInt32 × CpuSet) :=
  processes.flatMap fun process => dueThreads pins process.app? (table.threads s process.pid)

end ProcessTable

namespace ThreadReport

theorem lastApplied?_append (tid : UInt32) (early late : List ThreadReport) :
    lastApplied? tid (early ++ late) = (lastApplied? tid late).or (lastApplied? tid early) := by
  rw [lastApplied?, List.filterMap_append, List.getLast?_append]
  rfl

theorem lastApplied?_cons (tid : UInt32) (r : ThreadReport) (late : List ThreadReport) :
    lastApplied? tid (r :: late) = (lastApplied? tid late).or (r.appliedTo? tid) := by
  have single : lastApplied? tid [r] = r.appliedTo? tid := by
    cases applied : r.appliedTo? tid <;> simp [lastApplied?, applied]
  rw [← single, ← lastApplied?_append]
  rfl

end ThreadReport

namespace PinMap

theorem find_eq_ok_iff {pins : PinMap} {app : Option String} {thread : String} {cpus : CpuSet} :
    pins.find app thread = .ok cpus ↔
      (app.bind fun app => pins.lookup app thread) = some cpus := by
  cases app with
  | none => simp [find]
  | some app =>
    rw [Option.bind_some]
    cases known : pins.apps.lookup app with
    | none => simp [find, hasApp, KeyMap.contains, lookup, known]
    | some threads =>
      cases listed : threads.lookup thread <;>
        simp [find, hasApp, KeyMap.contains, lookup, known, listed]

theorem due?_eq_some_iff {pins : PinMap} {app : Option String} {thread : Thread} {cpus : CpuSet} :
    pins.due? app thread = some cpus ↔
      pins.find app thread.name = .ok cpus ∧ cpus.isEmpty = false := by
  rw [due?, Option.filter_eq_some_iff, find_eq_ok_iff, Bool.not_eq_true']

end PinMap

section Selection

theorem Process.occursIn_iff {part text : List Char} :
    occursIn part text = true ↔ part <:+: text := by
  induction text with
  | nil => simp [occursIn]
  | cons c rest ih =>
    rw [occursIn, Bool.or_eq_true, List.isPrefixOf_iff_prefix, ih, List.infix_cons_iff]

theorem Process.matchesFilter_iff {p : Process} {filter : String} :
    p.matchesFilter filter = true ↔ p.Selected filter := occursIn_iff

instance (p : Process) (filter : String) : Decidable (p.Selected filter) :=
  decidable_of_iff _ Process.matchesFilter_iff

theorem ProcessTable.selected_eq {σ : Type} (table : ProcessTable σ) (filter : String) (s : σ) :
    table.selected filter s = (table.processes s).filter (·.Selected filter) := by
  apply List.filter_congr
  intro p _
  rw [Bool.eq_iff_iff, Process.matchesFilter_iff, decide_eq_true_iff]

end Selection

namespace ProcessTable

variable {σ : Type} {table : ProcessTable σ} {pins : PinMap} {app : Option String}
  {thread : Thread} {cpus : CpuSet}

/-- A thread whose CPUs are due is set once, and the outcome is what the table answers. -/
theorem settle_of_due (due : pins.due? app thread = some cpus) (table : ProcessTable σ) (s : σ) :
    table.settle pins app thread s =
      (.ofSetting cpus (table.setAffinity s thread.tid cpus).1,
        (table.setAffinity s thread.tid cpus).2) := by
  obtain ⟨found, something⟩ := PinMap.due?_eq_some_iff.mp due
  simp [settle, found, something]

/-- A thread without CPUs that are due is left alone: nothing is tried, and the outcome does not
depend on the table. -/
theorem settle_of_not_due (none : pins.due? app thread = none) :
    ∃ outcome : Outcome, outcome.cpus? = Option.none ∧
      ∀ {τ : Type} (table : ProcessTable τ) (s : τ),
        table.settle pins app thread s = (outcome, s) := by
  cases found : pins.find app thread.name with
  | error miss =>
    refine ⟨.notFound miss, rfl, ?_⟩
    intro τ table s
    simp only [settle, found]
  | ok cpus =>
    have empty : cpus.isEmpty = true := by
      cases something : cpus.isEmpty with
      | true => rfl
      | false => exact nomatch none.symm.trans (PinMap.due?_eq_some_iff.mpr ⟨found, something⟩)
    refine ⟨.failed "empty CPU set", rfl, ?_⟩
    intro τ table s
    simp [settle, found, empty]

/-- Noting changes neither the outcome nor what becomes of the table. -/
theorem noting_settle (s : σ) (noted : List (UInt32 × CpuSet)) :
    table.noting.settle pins app thread (s, noted) =
      ((table.settle pins app thread s).1, (table.settle pins app thread s).2,
        noted ++ dueThreads pins app [thread]) := by
  cases due : pins.due? app thread with
  | none =>
    obtain ⟨outcome, _, settled⟩ := settle_of_not_due due
    rw [settled, settled]
    simp [dueThreads, due]
  | some cpus =>
    rw [settle_of_due due, settle_of_due due]
    simp [noting, dueThreads, due]

theorem visitThreads_cons (table : ProcessTable σ) (pins : PinMap) (app : Option String)
    (thread : Thread) (rest : List Thread) (s : σ) :
    table.visitThreads pins app (thread :: rest) s =
      (⟨thread, table.affinity s thread.tid, (table.settle pins app thread s).1⟩ ::
          (table.visitThreads pins app rest (table.settle pins app thread s).2).1,
        (table.visitThreads pins app rest (table.settle pins app thread s).2).2) := rfl

theorem visitProcesses_cons (table : ProcessTable σ) (pins : PinMap) (process : Process)
    (rest : List Process) (s : σ) :
    table.visitProcesses pins (process :: rest) s =
      (⟨process, table.sockets s process.pid,
          (table.visitThreads pins process.app? (table.threads s process.pid) s).1⟩ ::
          (table.visitProcesses pins rest
            (table.visitThreads pins process.app? (table.threads s process.pid) s).2).1,
        (table.visitProcesses pins rest
          (table.visitThreads pins process.app? (table.threads s process.pid) s).2).2) := rfl

theorem noting_visitThreads (threads : List Thread) (s : σ) (noted : List (UInt32 × CpuSet)) :
    table.noting.visitThreads pins app threads (s, noted) =
      ((table.visitThreads pins app threads s).1, (table.visitThreads pins app threads s).2,
        noted ++ dueThreads pins app threads) := by
  induction threads generalizing s noted with
  | nil => simp [visitThreads, dueThreads]
  | cons thread rest ih =>
    rw [visitThreads_cons, visitThreads_cons, noting_settle, ih, List.append_assoc]
    have split : dueThreads pins app [thread] ++ dueThreads pins app rest =
        dueThreads pins app (thread :: rest) := List.filterMap_append.symm
    rw [split]
    rfl

section Keeping

variable {held : σ → UInt32 → Option CpuSet} (keeps : table.Keeps held)

include keeps

theorem Keeps.settle_threads (s : σ) :
    table.threads (table.settle pins app thread s).2 = table.threads s := by
  cases due : pins.due? app thread with
  | none =>
    obtain ⟨outcome, _, settled⟩ := settle_of_not_due due
    rw [settled]
  | some cpus =>
    rw [settle_of_due due]
    exact keeps.threads s thread.tid cpus

theorem Keeps.visitThreads_threads (threads : List Thread) (s : σ) :
    table.threads (table.visitThreads pins app threads s).2 = table.threads s := by
  induction threads generalizing s with
  | nil => rfl
  | cons thread rest ih =>
    rw [visitThreads_cons, ih]
    exact keeps.settle_threads s

/-- What is tried for the processes is what is due, as their threads are listed at the start. -/
theorem Keeps.noting_visitProcesses (processes : List Process) (s : σ)
    (noted : List (UInt32 × CpuSet)) :
    table.noting.visitProcesses pins processes (s, noted) =
      ((table.visitProcesses pins processes s).1, (table.visitProcesses pins processes s).2,
        noted ++ table.dueProcesses pins processes s) := by
  induction processes generalizing s noted with
  | nil => simp [visitProcesses, dueProcesses]
  | cons process rest ih =>
    have listed : (table.noting.threads (s, noted) process.pid) = table.threads s process.pid := rfl
    have same (t : σ) (kept : table.threads t = table.threads s) :
        table.dueProcesses pins rest t = table.dueProcesses pins rest s := by
      simp only [dueProcesses, kept]
    rw [visitProcesses_cons, visitProcesses_cons, listed, noting_visitThreads, ih,
      same _ (keeps.visitThreads_threads _ s), List.append_assoc]
    rfl

/-- A thread holds what was applied to it, and any other holds what it held. -/
theorem Keeps.settle_held (s : σ) (tid : UInt32) :
    held (table.settle pins app thread s).2 tid =
      (if thread.tid = tid then (table.settle pins app thread s).1.cpus? else none).or
        (held s tid) := by
  cases due : pins.due? app thread with
  | none =>
    obtain ⟨outcome, unset, settled⟩ := settle_of_not_due due
    simp [settled, unset]
  | some cpus =>
    rw [settle_of_due due]
    cases answer : (table.setAffinity s thread.tid cpus).1 with
    | error e =>
      have unset : (Outcome.ofSetting cpus (.error e)).cpus? = none := by
        cases e <;> rfl
      simp [unset, keeps.failed s thread.tid cpus e answer]
    | ok done =>
      rw [keeps.applied s thread.tid cpus answer]
      by_cases here : thread.tid = tid
      · simp [here, Outcome.ofSetting, Outcome.cpus?]
      · simp [here, Ne.symm here]

/-- After the threads of a process, a thread holds what was applied to it last. -/
theorem Keeps.visitThreads_held (process : Process) (threads : List Thread) (s : σ)
    (tid : UInt32) :
    held (table.visitThreads pins app threads s).2 tid =
      (ThreadReport.lastApplied? tid
        ((table.visitThreads pins app threads s).1.map (·.report process))).or (held s tid) := by
  induction threads generalizing s with
  | nil => rfl
  | cons thread rest ih =>
    rw [visitThreads_cons, ih, keeps.settle_held, List.map_cons, ThreadReport.lastApplied?_cons,
      Option.or_assoc]
    rfl

theorem Keeps.visitProcesses_held (processes : List Process) (s : σ) (tid : UInt32) :
    held (table.visitProcesses pins processes s).2 tid =
      (ThreadReport.lastApplied? tid
        ((table.visitProcesses pins processes s).1.flatMap ProcessVisit.reports)).or
          (held s tid) := by
  induction processes generalizing s with
  | nil => rfl
  | cons process rest ih =>
    rw [visitProcesses_cons, ih, keeps.visitThreads_held process, List.flatMap_cons,
      ThreadReport.lastApplied?_append, Option.or_assoc]
    rfl

/-- A pass tries to set the CPUs of the threads for which the map has some, each as often as it is
listed for a process whose name contains the filter, with the set of the map, in listing order, and
sets no other thread. Afterwards a thread holds the set of the last entry of the report in which one
was applied to it, and without such an entry what it held before. -/
theorem Keeps.balance_pins (pins : PinMap) (filter : String) (s : σ) :
    table.noting.balance pins filter (s, []) =
      ((table.balance pins filter s).1, (table.balance pins filter s).2,
        ((table.processes s).filter (·.Selected filter)).flatMap fun process =>
          (table.threads s process.pid).filterMap fun thread =>
            (pins.due? process.app? thread).map fun cpus => (thread.tid, cpus)) ∧
    ∀ tid, held (table.balance pins filter s).2 tid =
      (ThreadReport.lastApplied? tid (table.balance pins filter s).1.threads).or (held s tid) := by
  constructor
  · have chosen : table.noting.selected filter (s, []) = table.selected filter s := rfl
    rw [balance, pass, chosen, keeps.noting_visitProcesses, ← table.selected_eq filter s]
    rfl
  · intro tid
    exact keeps.visitProcesses_held (table.selected filter s) s tid

end Keeping

/-- Of four threads one is refused, one is asked for a CPU that does not exist and one has an empty
set: only the fourth is changed, and the third is not even tried. The fifth is due CPUs too, but the
name of its process does not contain the filter. -/
theorem Keeps.balance_pins_failing :
    ∃ (t : ThreadTable) (pins : PinMap),
      t = ⟨4, [⟨300, "appA", ["daq_application", "--name", "appA"], 0⟩,
          ⟨400, "shell", ["app", "--name", "appA"], 0⟩],
        [(300, [⟨301, "denied"⟩, ⟨302, "badcpu"⟩, ⟨303, "empty"⟩, ⟨304, "ok"⟩], []),
          (400, [⟨401, "ok"⟩], [])],
        [(301, .below 4), (302, .below 4), (303, .below 4), (304, .below 4), (401, .below 4)],
        [(301, ⟨.denied, false⟩)]⟩ ∧
      pins = ⟨.ofList [("appA", .ofList [("denied", .ofList [0]), ("badcpu", .ofList [64]),
        ("empty", .ofList []), ("ok", .ofList [3])])]⟩ ∧
      ThreadTable.access.Keeps (fun t tid => t.affinities.lookup tid) ∧
      (ThreadTable.access.noting.balance pins "app" (t, [])).2.2 =
        [(301, .ofList [0]), (302, .ofList [64]), (304, .ofList [3])] ∧
      (ThreadTable.access.balance pins "app" t).2.affinities.lookup 301 = some (.below 4) ∧
      (ThreadTable.access.balance pins "app" t).2.affinities.lookup 304 = some (.ofList [3]) ∧
      (ThreadTable.access.balance pins "app" t).2.affinities.lookup 401 = some (.below 4) := by
  refine ⟨_, _, rfl, rfl, ThreadTable.access_keeps, ?_, ?_, ?_, ?_⟩
  · rw [(ThreadTable.access_keeps.balance_pins _ "app" _).1]
    decide +kernel
  · refine ((ThreadTable.access_keeps.balance_pins _ "app" _).2 301).trans ?_
    decide +kernel
  · refine ((ThreadTable.access_keeps.balance_pins _ "app" _).2 304).trans ?_
    decide +kernel
  · refine ((ThreadTable.access_keeps.balance_pins _ "app" _).2 401).trans ?_
    decide +kernel

end ProcessTable

end ReadoutControl
