import Mathlib.Data.List.Forall2
import ReadoutControl.Proofs.Balance.Law

set_option autoImplicit false

/-!
Balancing again. If a table answers a setting by the thread and the set alone, every outcome of a
second pass is that of the first, also where a thread is listed more than once. So what was applied
last to a thread is the same again, and only the CPUs before can differ between the reports.
-/

namespace ReadoutControl

/-- The entry without what the thread held before. -/
def ThreadReport.unread (r : ThreadReport) : ThreadReport := { r with previous := none }

/-- How the CPUs before in the second of two entries follow from the first: where they can be read,
they are those that were applied, and in any other case those of the first. -/
structure ThreadReport.Succeeds (readable : Prop) (first second : ThreadReport) : Prop where
  applied : ∀ cpus, first.outcome = .applied cpus → readable → second.previous = some cpus
  other : (∀ cpus, first.outcome = .applied cpus → ¬ readable) → second.previous = first.previous

/-- The report without what its threads held before. -/
def BalanceReport.unread (r : BalanceReport) : BalanceReport :=
  { r with threads := r.threads.map ThreadReport.unread }

namespace ProcessTable

variable {σ : Type}

/-- The CPUs of the thread can be read. -/
def Readable (table : ProcessTable σ) (s : σ) (tid : UInt32) : Prop :=
  ∃ cpus, table.affinity s tid = .ok cpus

/-- From a state on the table keeps what it is told, and a setting is answered by the thread and the
set alone. Reading fails for a listed thread at all times, or gives what it holds at all times. -/
structure Steady (table : ProcessTable σ) (held : σ → UInt32 → Option CpuSet) (s : σ) : Prop where
  keeps : table.Keeps held
  answers : ∀ t, table.Reached s t → ∀ tid cpus,
    (table.setAffinity t tid cpus).1 = (table.setAffinity s tid cpus).1
  reads : ∀ listed ∈ table.listing (table.processes s) s,
    (∀ t, table.Reached s t → ∃ e, table.affinity t listed.2.tid = .error e) ∨
      ∀ t, table.Reached s t → ∃ cpus, table.affinity t listed.2.tid = .ok cpus ∧
        held t listed.2.tid = some cpus

/-- The pass over threads that are listed with their processes, as one recursion: the entries and
the state that is left. -/
def settleAll (table : ProcessTable σ) (pins : PinMap) :
    List (Process × Thread) → σ → List ThreadReport × σ
  | [], s => ([], s)
  | (p, thread) :: rest, s =>
    let later := settleAll table pins rest (table.settle pins p.app? thread s).2
    (table.entry pins p thread s :: later.1, later.2)

end ProcessTable

namespace ThreadReport

theorem appliedTo?_unread (r : ThreadReport) (tid : UInt32) :
    r.unread.appliedTo? tid = r.appliedTo? tid := rfl

/-- What was applied does not depend on what was held before. -/
theorem lastApplied?_unread (tid : UInt32) (reports : List ThreadReport) :
    lastApplied? tid (reports.map unread) = lastApplied? tid reports := by
  simp only [lastApplied?, List.filterMap_map, Function.comp_def, appliedTo?_unread]

/-- A thread with one entry was given what that entry says. -/
theorem lastApplied?_of_mem {reports : List ThreadReport}
    (distinct : (reports.map (·.tid)).Nodup) {r : ThreadReport} (member : r ∈ reports) :
    lastApplied? r.tid reports = r.outcome.cpus? := by
  induction reports with
  | nil => exact nomatch member
  | cons first rest ih =>
    obtain ⟨fresh, distinct⟩ := List.nodup_cons.mp distinct
    rw [lastApplied?_cons]
    rcases List.mem_cons.mp member with rfl | later
    · have absent : lastApplied? r.tid rest = none := by
        apply lastApplied?_of_absent
        intro other here same
        exact fresh (List.mem_map.mpr ⟨other, here, same⟩)
      rw [absent, Option.none_or, appliedTo?, if_pos rfl]
    · have other : first.appliedTo? r.tid = none := by
        refine if_neg fun same => fresh ?_
        exact List.mem_map.mpr ⟨r, later, same.symm⟩
      rw [ih distinct later, other, Option.or_none]

end ThreadReport

namespace ProcessTable

variable {σ : Type} {table : ProcessTable σ} {pins : PinMap} {s t u : σ}
  {held : σ → UInt32 → Option CpuSet} {listing : List (Process × Thread)}

section Flattening

theorem settleAll_append (table : ProcessTable σ) (pins : PinMap)
    (early late : List (Process × Thread)) (s : σ) :
    table.settleAll pins (early ++ late) s =
      ((table.settleAll pins early s).1 ++
          (table.settleAll pins late (table.settleAll pins early s).2).1,
        (table.settleAll pins late (table.settleAll pins early s).2).2) := by
  induction early generalizing s with
  | nil => rfl
  | cons listed rest ih => simp only [List.cons_append, settleAll, ih]

theorem settleAll_threads (table : ProcessTable σ) (pins : PinMap) (p : Process)
    (threads : List Thread) (s : σ) :
    table.settleAll pins (threads.map fun thread => (p, thread)) s =
      ((table.visitThreads pins p.app? threads s).1.map (·.report p),
        (table.visitThreads pins p.app? threads s).2) := by
  induction threads generalizing s with
  | nil => rfl
  | cons thread rest ih =>
    rw [List.map_cons, settleAll, ih, visitThreads_cons]
    rfl

theorem reached_settleAll (table : ProcessTable σ) (pins : PinMap)
    (listing : List (Process × Thread)) (s : σ) :
    table.Reached s (table.settleAll pins listing s).2 := by
  induction listing generalizing s with
  | nil => exact .start
  | cons listed rest ih =>
    exact (table.reached_settle pins listed.1.app? listed.2 s).trans (ih _)

variable (keeps : table.Keeps held)

include keeps

/-- No setting changes what is listed. -/
theorem Keeps.listed_of_reached (reached : table.Reached s t) :
    table.processes t = table.processes s ∧ table.threads t = table.threads s := by
  induction reached with
  | start => exact ⟨rfl, rfl⟩
  | set tid cpus _ ih => rwa [keeps.processes, keeps.threads]

theorem Keeps.listing_of_reached (reached : table.Reached s t) (processes : List Process) :
    table.listing processes t = table.listing processes s := by
  simp only [listing, (keeps.listed_of_reached reached).2]

theorem Keeps.visitProcesses_eq (processes : List Process) (s : σ) :
    ((table.visitProcesses pins processes s).1.flatMap ProcessVisit.reports,
        (table.visitProcesses pins processes s).2) =
      table.settleAll pins (table.listing processes s) s := by
  induction processes generalizing s with
  | nil => rfl
  | cons p rest ih =>
    have reached := table.reached_visitThreads pins p.app? (table.threads s p.pid) s
    rw [visitProcesses_cons, listing_cons, settleAll_append, settleAll_threads,
      ← keeps.listing_of_reached reached rest, ← ih]
    rfl

/-- A pass goes over the threads of the processes that the filter selects. -/
theorem Keeps.balance_eq (pins : PinMap) (filter : String) (s : σ) :
    ((table.balance pins filter s).1.threads, (table.balance pins filter s).2) =
      table.settleAll pins (table.listing (table.selected filter s) s) s :=
  keeps.visitProcesses_eq (table.selected filter s) s

theorem Keeps.threads_balance (pins : PinMap) (filter : String) (s : σ) :
    (table.balance pins filter s).1.threads =
      (table.settleAll pins (table.listing (table.selected filter s) s) s).1 :=
  congrArg Prod.fst (keeps.balance_eq pins filter s)

theorem Keeps.reached_balance (pins : PinMap) (filter : String) (s : σ) :
    table.Reached s (table.balance pins filter s).2 := by
  rw [congrArg Prod.snd (keeps.balance_eq pins filter s)]
  exact table.reached_settleAll ..

end Flattening

namespace Steady

variable (steady : table.Steady held s)

include steady

/-- But for the CPUs before, an entry is the same at all times. -/
theorem entry_unread (pins : PinMap) (first : table.Reached s t) (later : table.Reached s u)
    (p : Process) (thread : Thread) :
    (table.entry pins p thread t).unread = (table.entry pins p thread u).unread := by
  have answers : (fun cpus => (table.setAffinity t thread.tid cpus).1) =
      fun cpus => (table.setAffinity u thread.tid cpus).1 := by
    funext cpus
    rw [steady.answers t first, steady.answers u later]
  simp only [entry, ThreadVisit.report, ThreadReport.unread, settle_eq, answers]

/-- This is so for all entries, whatever threads are listed more than once. -/
theorem settleAll_unread (pins : PinMap) (first : table.Reached s t) (later : table.Reached s u)
    (listing : List (Process × Thread)) :
    (table.settleAll pins listing t).1.map ThreadReport.unread =
      (table.settleAll pins listing u).1.map ThreadReport.unread := by
  induction listing generalizing t u with
  | nil => rfl
  | cons listed rest ih =>
    obtain ⟨p, thread⟩ := listed
    have next := ih (first.trans (table.reached_settle pins p.app? thread t))
      (later.trans (table.reached_settle pins p.app? thread u))
    have entry := steady.entry_unread pins first later p thread
    rw [settleAll, settleAll, List.map_cons, List.map_cons, entry, next]

/-- What is read of a thread depends on what it holds. -/
theorem affinity_congr (first : table.Reached s t) (later : table.Reached s u)
    {listed : Process × Thread} (member : listed ∈ table.listing (table.processes s) s)
    (same : held t listed.2.tid = held u listed.2.tid) :
    (table.affinity t listed.2.tid).toOption = (table.affinity u listed.2.tid).toOption := by
  rcases steady.reads listed member with hidden | shown
  · obtain ⟨e, unread⟩ := hidden t first
    obtain ⟨f, unreadToo⟩ := hidden u later
    rw [unread, unreadToo]
    rfl
  · obtain ⟨cpus, read, holds⟩ := shown t first
    obtain ⟨others, readToo, holdsToo⟩ := shown u later
    obtain rfl : cpus = others := Option.some.inj (holds.symm.trans (same.trans holdsToo))
    rw [read, readToo]

/-- Where threads are listed once, every entry is as if its thread came first. -/
theorem settleAll_eq (reached : table.Reached s t)
    (members : ∀ listed ∈ listing, listed ∈ table.listing (table.processes s) s)
    (distinct : (listing.map (·.2.tid)).Nodup) :
    (table.settleAll pins listing t).1 =
      listing.map fun listed => table.entry pins listed.1 listed.2 t := by
  induction listing generalizing t with
  | nil => rfl
  | cons listed rest ih =>
    obtain ⟨p, thread⟩ := listed
    obtain ⟨fresh, distinct⟩ := List.nodup_cons.mp distinct
    rw [List.forall_mem_cons] at members
    have further := reached.trans (table.reached_settle pins p.app? thread t)
    rw [settleAll, ih further members.2 distinct, List.map_cons]
    refine congrArg (table.entry pins p thread t :: ·) (List.map_congr_left ?_)
    intro next member
    have other : thread.tid ≠ next.2.tid := by
      intro same
      exact fresh (List.mem_map.mpr ⟨next, member, same.symm⟩)
    have previous := steady.affinity_congr further reached (members.2 next member)
      (steady.keeps.settle_others other)
    have rest := steady.entry_unread pins further reached next.1 next.2
    simp only [entry, ThreadVisit.report, ThreadReport.unread, ThreadReport.mk.injEq] at rest ⊢
    simp only [rest, previous, and_self]

/-- A second pass goes over the same threads. -/
theorem threads_again (pins : PinMap) (filter : String) :
    (table.balance pins filter (table.balance pins filter s).2).1.threads =
      (table.settleAll pins (table.listing (table.selected filter s) s)
        (table.balance pins filter s).2).1 := by
  have reached := steady.keeps.reached_balance pins filter s
  rw [steady.keeps.threads_balance, steady.keeps.listing_of_reached reached, selected,
    (steady.keeps.listed_of_reached reached).1, ← selected]

theorem unread_again (pins : PinMap) (filter : String) :
    (table.balance pins filter (table.balance pins filter s).2).1.unread =
      (table.balance pins filter s).1.unread := by
  have reached := steady.keeps.reached_balance pins filter s
  have threads := steady.settleAll_unread pins reached .start
    (table.listing (table.selected filter s) s)
  rw [← steady.threads_again, ← steady.keeps.threads_balance] at threads
  have matched : (table.balance pins filter (table.balance pins filter s).2).1.matched =
      (table.balance pins filter s).1.matched := by
    have count (t : σ) : (table.balance pins filter t).1.matched =
        (table.selected filter t).length := length_visitProcesses ..
    rw [count, count, selected, (steady.keeps.listed_of_reached reached).1, ← selected]
  rw [BalanceReport.unread, BalanceReport.unread, threads, matched]
  rfl

/-- The same is applied last, and already holds. -/
theorem held_again (pins : PinMap) (filter : String) :
    held (table.balance pins filter (table.balance pins filter s).2).2 =
      held (table.balance pins filter s).2 := by
  funext tid
  have threads := congrArg BalanceReport.threads (steady.unread_again pins filter)
  have applied := congrArg (ThreadReport.lastApplied? tid) threads
  simp only [BalanceReport.unread, ThreadReport.lastApplied?_unread] at applied
  rw [steady.keeps.balance_held, applied, steady.keeps.balance_held, ← Option.or_assoc,
    Option.or_self]

/-- An entry made after the thread has been given what is due follows from the entry before. -/
theorem entry_succeeds (reached : table.Reached s t) {listed : Process × Thread}
    (member : listed ∈ table.listing (table.processes s) s)
    (given : held t listed.2.tid =
      (table.entry pins listed.1 listed.2 s).outcome.cpus?.or (held s listed.2.tid)) :
    ThreadReport.Succeeds (table.Readable s listed.2.tid)
      (table.entry pins listed.1 listed.2 s) (table.entry pins listed.1 listed.2 t) := by
  rcases steady.reads listed member with hidden | shown
  · obtain ⟨e, unread⟩ := hidden s .start
    obtain ⟨f, unreadToo⟩ := hidden t reached
    constructor
    · rintro cpus - ⟨known, read⟩
      exact nomatch unread.symm.trans read
    · intro _
      simp only [entry, ThreadVisit.report, unread, unreadToo]
      rfl
  · obtain ⟨cpus, read, holds⟩ := shown s .start
    obtain ⟨left, readToo, holdsToo⟩ := shown t reached
    rw [given, holds] at holdsToo
    constructor
    · intro set applied _
      rw [applied] at holdsToo
      simp only [entry, ThreadVisit.report, readToo]
      exact holdsToo.symm
    · intro unapplied
      have none : (table.entry pins listed.1 listed.2 s).outcome.cpus? = none := by
        cases outcome : (table.entry pins listed.1 listed.2 s).outcome with
        | applied set => exact absurd ⟨cpus, read⟩ (unapplied set outcome)
        | _ => rfl
      rw [none] at holdsToo
      simp only [entry, ThreadVisit.report, read, readToo]
      exact holdsToo.symm

theorem succeeds_again {filter : String}
    (distinct : ((table.listing (table.selected filter s) s).map (·.2.tid)).Nodup)
    (pins : PinMap) :
    List.Forall₂
      (fun first second => ThreadReport.Succeeds (table.Readable s first.tid) first second)
      (table.balance pins filter s).1.threads
      (table.balance pins filter (table.balance pins filter s).2).1.threads := by
  have reached := steady.keeps.reached_balance pins filter s
  have members : ∀ listed ∈ table.listing (table.selected filter s) s,
      listed ∈ table.listing (table.processes s) s := by
    intro listed member
    rw [listing_selected] at member
    exact (List.mem_filter.mp member).1
  have first := steady.keeps.threads_balance pins filter s
  have second := steady.threads_again pins filter
  rw [steady.settleAll_eq .start members distinct] at first
  rw [steady.settleAll_eq reached members distinct] at second
  have once : ((table.balance pins filter s).1.threads.map (·.tid)).Nodup := by
    rwa [first, List.map_map]
  have given : ∀ listed ∈ table.listing (table.selected filter s) s,
      held (table.balance pins filter s).2 listed.2.tid =
        (table.entry pins listed.1 listed.2 s).outcome.cpus?.or (held s listed.2.tid) := by
    intro listed member
    have reported : table.entry pins listed.1 listed.2 s ∈
        (table.balance pins filter s).1.threads := by
      rw [first]
      exact List.mem_map_of_mem member
    rw [steady.keeps.balance_held, ← ThreadReport.lastApplied?_of_mem once reported]
    rfl
  rw [second, first, List.forall₂_map_left_iff, List.forall₂_map_right_iff, List.forall₂_same]
  exact fun listed member =>
    steady.entry_succeeds reached (members listed member) (given listed member)

/-- A second pass leaves all threads with what the first has left, and its report differs from the
first at most in the CPUs before. Where threads are listed once, these are those that the first pass
applied, if they can be read, and for any other thread they are the same as in the first report. -/
theorem balance_again (pins : PinMap) (filter : String) :
    held (table.balance pins filter (table.balance pins filter s).2).2 =
        held (table.balance pins filter s).2 ∧
      (table.balance pins filter (table.balance pins filter s).2).1.unread =
        (table.balance pins filter s).1.unread ∧
      (((table.listing (table.selected filter s) s).map (·.2.tid)).Nodup →
        List.Forall₂
          (fun first second => ThreadReport.Succeeds (table.Readable s first.tid) first second)
          (table.balance pins filter s).1.threads
          (table.balance pins filter (table.balance pins filter s).2).1.threads) :=
  ⟨steady.held_again pins filter, steady.unread_again pins filter,
    fun distinct => steady.succeeds_again distinct pins⟩

end Steady

end ProcessTable

namespace ThreadTable

theorem isSome_lookup_of_reached {t u : ThreadTable} (reached : access.Reached t u) {tid : UInt32}
    (stored : (t.affinities.lookup tid).isSome = true) :
    (u.affinities.lookup tid).isSome = true := by
  induction reached with
  | start => exact stored
  | set other cpus _ ih =>
    rename_i u _
    rcases u.setAffinity_cases other cpus with ⟨e, outcome⟩ | outcome
    · simpa only [access, outcome] using ih
    · simp only [access, outcome, lookup_put]
      split
      · rfl
      · exact ih

/-- A table that knows what its threads hold is steady. -/
theorem access_steady {t : ThreadTable}
    (stored : ∀ listed ∈ access.listing (access.processes t) t,
      (t.affinities.lookup listed.2.tid).isSome = true) :
    access.Steady (fun t tid => t.affinities.lookup tid) t where
  keeps := access_keeps
  answers u reached tid cpus := by
    have obeys := access_obeys t
    rw [obeys.answers u reached, obeys.answers t .start]
  reads listed member := by
    have same {u : ThreadTable} (reached : access.Reached t u) :
        u.faults.lookup listed.2.tid = t.faults.lookup listed.2.tid := by
      rw [(law_of_reached reached).2]
    have known {u : ThreadTable} (reached : access.Reached t u)
        (shown : ∀ fault, t.faults.lookup listed.2.tid = some fault → fault.hidesReading = false) :
        ∃ cpus, access.affinity u listed.2.tid = .ok cpus ∧
          u.affinities.lookup listed.2.tid = some cpus := by
      obtain ⟨cpus, holds⟩ :=
        Option.isSome_iff_exists.mp (isSome_lookup_of_reached reached (stored listed member))
      refine ⟨cpus, ?_, holds⟩
      have read : u.stored listed.2.tid = .ok cpus := by rw [ThreadTable.stored, holds]
      simp only [access, affinity, same reached]
      split
      · next fault found => simp [shown fault found, read]
      · exact read
    cases fault : t.faults.lookup listed.2.tid with
    | none => exact .inr fun u reached => known reached (by simp [fault])
    | some f =>
      cases hides : f.hidesReading with
      | false => exact .inr fun u reached => known reached (by simp [fault, hides])
      | true =>
        refine .inl fun u reached => ⟨f.kind.error listed.2.tid, ?_⟩
        simp only [access, affinity, same reached, fault, hides, if_true]

end ThreadTable

namespace ProcessTable

/-- Of four threads one is pinned, one is refused and cannot be read, one is asked for a CPU that
does not exist and one is not in the map: the second report tells what the first thread was given,
and for the others what the first report told. -/
theorem Steady.balance_again_refusing :
    ∃ (t : ThreadTable) (pins : PinMap),
      t = ⟨4, [⟨300, "appA", ["daq_application", "--name", "appA"], 0⟩],
        [(300, [⟨301, "ok"⟩, ⟨302, "denied"⟩, ⟨303, "badcpu"⟩, ⟨304, "other"⟩], [])],
        [(301, .below 4), (302, .below 4), (303, .below 4), (304, .below 4)],
        [(302, ⟨.denied, true⟩)]⟩ ∧
      pins = ⟨.ofList [("appA", .ofList [("ok", .ofList [3]), ("denied", .ofList [0]),
        ("badcpu", .ofList [64])])]⟩ ∧
      ThreadTable.access.Steady (fun t tid => t.affinities.lookup tid) t ∧
      ((ThreadTable.access.listing (ThreadTable.access.selected "app" t) t).map (·.2.tid)).Nodup ∧
      (ThreadTable.access.balance pins "app"
        (ThreadTable.access.balance pins "app" t).2).1.unread =
          (ThreadTable.access.balance pins "app" t).1.unread ∧
      List.Forall₂ (fun first second =>
          ThreadReport.Succeeds (ThreadTable.access.Readable t first.tid) first second)
        (ThreadTable.access.balance pins "app" t).1.threads
        (ThreadTable.access.balance pins "app"
          (ThreadTable.access.balance pins "app" t).2).1.threads ∧
      (ThreadTable.access.balance pins "app" t).1.threads.map (·.previous) =
        [some (.below 4), none, some (.below 4), some (.below 4)] ∧
      (ThreadTable.access.balance pins "app"
        (ThreadTable.access.balance pins "app" t).2).1.threads.map (·.previous) =
          [some (.ofList [3]), none, some (.below 4), some (.below 4)] := by
  refine ⟨_, _, rfl, rfl, ThreadTable.access_steady ?_, ?_,
    ((ThreadTable.access_steady ?_).balance_again _ "app").2.1,
    ((ThreadTable.access_steady ?_).balance_again _ "app").2.2 ?_, ?_, ?_⟩ <;> decide +kernel

end ProcessTable

end ReadoutControl
