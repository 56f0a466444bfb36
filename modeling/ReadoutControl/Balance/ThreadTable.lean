import ReadoutControl.Balance.Process

set_option autoImplicit false

/-!
A process table held in memory. Threads may be given faults, which answer in place of the table.
-/

namespace ReadoutControl

inductive FaultKind where
  | denied
  | gone
  | unsupported
  | refused (reason : String)
  deriving DecidableEq

namespace FaultKind

def error (tid : UInt32) : FaultKind → AffinityError
  | denied => .permissionDenied tid
  | gone => .noSuchThread tid
  | unsupported => .unsupported
  | refused reason => .refused tid reason

end FaultKind

/-- A fault of a thread. It stands in the way of setting, and of reading too if it says so. -/
structure ThreadFault where
  kind : FaultKind
  hidesReading : Bool
  deriving DecidableEq

/-- A process with its threads and their CPUs, as it is added to a table. -/
structure ProcessEntry where
  process : Process
  threads : List (Thread × CpuSet)
  sockets : List Socket

structure ThreadTable where
  cpuCount : Nat
  processes : List Process
  /-- The threads and sockets of each process that was ever added. -/
  listings : List (UInt32 × List Thread × List Socket)
  affinities : List (UInt32 × CpuSet)
  faults : List (UInt32 × ThreadFault)

namespace ThreadTable

def empty (cpuCount : Nat) : ThreadTable := ⟨cpuCount, [], [], [], []⟩

/-- Puts a value under a key, in place of the one before it or at the end. -/
def put {α : Type} (key : UInt32) (value : α) : List (UInt32 × α) → List (UInt32 × α)
  | [] => [(key, value)]
  | (k, v) :: rest => if k = key then (key, value) :: rest else (k, v) :: put key value rest

/-- Adds a process. The listing and the CPUs that were known before are replaced. -/
def add (t : ThreadTable) (e : ProcessEntry) : ThreadTable :=
  { t with
    processes := t.processes ++ [e.process]
    listings := put e.process.pid (e.threads.map (·.1), e.sockets) t.listings
    affinities := e.threads.foldl (fun known (thread, cpus) => put thread.tid cpus known)
      t.affinities }

/-- Removes the processes of that number; their listing and CPUs stay known. -/
def kill (t : ThreadTable) (pid : UInt32) : ThreadTable :=
  { t with processes := t.processes.filter (·.pid ≠ pid) }

def setFault (t : ThreadTable) (tid : UInt32) (fault : ThreadFault) : ThreadTable :=
  { t with faults := put tid fault t.faults }

def heal (t : ThreadTable) (tid : UInt32) : ThreadTable :=
  { t with faults := t.faults.filter (·.1 ≠ tid) }

def threads (t : ThreadTable) (pid : UInt32) : List Thread :=
  ((t.listings.lookup pid).map (·.1)).getD []

def sockets (t : ThreadTable) (pid : UInt32) : List Socket :=
  ((t.listings.lookup pid).map (·.2)).getD []

def stored (t : ThreadTable) (tid : UInt32) : Except AffinityError CpuSet :=
  match t.affinities.lookup tid with
  | some cpus => .ok cpus
  | none => .error (.noSuchThread tid)

def affinity (t : ThreadTable) (tid : UInt32) : Except AffinityError CpuSet :=
  match t.faults.lookup tid with
  | some fault => if fault.hidesReading then .error (fault.kind.error tid) else t.stored tid
  | none => t.stored tid

def setAffinity (t : ThreadTable) (tid : UInt32) (cpus : CpuSet) :
    Except AffinityError Unit × ThreadTable :=
  match t.faults.lookup tid with
  | some fault => (.error (fault.kind.error tid), t)
  | none =>
    match cpus.beyond? t.cpuCount with
    | some cpu => (.error (.invalidCpu cpu), t)
    | none => (.ok (), { t with affinities := put tid cpus t.affinities })

def access : ProcessTable ThreadTable where
  processes := processes
  threads := threads
  sockets := sockets
  affinity := affinity
  setAffinity := setAffinity

/-- The CPUs of all threads in the order of their numbers. -/
def snapshot (t : ThreadTable) : List (UInt32 × CpuSet) :=
  t.affinities.mergeSort fun a b => decide (a.1 ≤ b.1)

end ThreadTable

/-- The host's answers for a thread that does not exist. A set is looked at before the thread is,
and holds CPUs below 1024. -/
def missingThreadError (tid : UInt32) (cpus : CpuSet) : AffinityError :=
  match cpus.beyond? 1024 with
  | some cpu => .invalidCpu cpu
  | none => .noSuchThread tid

end ReadoutControl
