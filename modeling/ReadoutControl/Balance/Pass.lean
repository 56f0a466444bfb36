import ReadoutControl.Balance.Outcome
import ReadoutControl.Log

set_option autoImplicit false

/-!
One pass over the processes that a filter selects. Every thread is visited once in listing order;
what goes wrong with one thread is noted and stops nothing.
-/

namespace ReadoutControl

/-- The CPUs that a map has for a thread of an application. -/
def PinMap.find (pins : PinMap) (app : Option String) (thread : String) :
    Except LookupMiss CpuSet :=
  match app with
  | none => .error .noAppName
  | some app =>
    if pins.hasApp app then
      match pins.lookup app thread with
      | some cpus => .ok cpus
      | none => .error (.unknownThread app thread)
    else .error (.unknownApp app)

/-- What setting the CPUs of a thread came to. -/
def Outcome.ofSetting (cpus : CpuSet) : Except AffinityError Unit → Outcome
  | .ok () => .applied cpus
  | .error (.permissionDenied _) => .permissionDenied
  | .error e => .failed e.message

structure ThreadVisit where
  thread : Thread
  /-- The CPUs before. -/
  reading : Except AffinityError CpuSet
  outcome : Outcome

structure ProcessVisit where
  process : Process
  sockets : List Socket
  threads : List ThreadVisit

namespace ProcessTable

variable {σ : Type}

/-- Gives a thread its CPUs, if the map has some for it. -/
def settle (table : ProcessTable σ) (pins : PinMap) (app : Option String) (thread : Thread)
    (s : σ) : Outcome × σ :=
  match pins.find app thread.name with
  | .error miss => (.notFound miss, s)
  | .ok cpus =>
    if cpus.isEmpty then (.failed "empty CPU set", s)
    else
      let (answer, s) := table.setAffinity s thread.tid cpus
      (.ofSetting cpus answer, s)

def visitThreads (table : ProcessTable σ) (pins : PinMap) (app : Option String) :
    List Thread → σ → List ThreadVisit × σ
  | [], s => ([], s)
  | thread :: rest, s =>
    let reading := table.affinity s thread.tid
    let (outcome, s) := table.settle pins app thread s
    let (visits, s) := visitThreads table pins app rest s
    (⟨thread, reading, outcome⟩ :: visits, s)

def visitProcesses (table : ProcessTable σ) (pins : PinMap) :
    List Process → σ → List ProcessVisit × σ
  | [], s => ([], s)
  | process :: rest, s =>
    let sockets := table.sockets s process.pid
    let (threads, s) := table.visitThreads pins process.app? (table.threads s process.pid) s
    let (visits, s) := visitProcesses table pins rest s
    (⟨process, sockets, threads⟩ :: visits, s)

/-- The processes whose name contains the filter. -/
def selected (table : ProcessTable σ) (filter : String) (s : σ) : List Process :=
  (table.processes s).filter (·.matchesFilter filter)

def pass (table : ProcessTable σ) (pins : PinMap) (filter : String) (s : σ) :
    List ProcessVisit × σ :=
  table.visitProcesses pins (table.selected filter s) s

end ProcessTable

namespace ThreadVisit

def report (v : ThreadVisit) (p : Process) : ThreadReport where
  pid := p.pid
  process := p.name
  app := p.app?
  tid := v.thread.tid
  thread := v.thread.name
  previous := v.reading.toOption
  outcome := v.outcome

def log (v : ThreadVisit) : List LogLine :=
  let before := match v.reading with
    | .ok cpus => s!"Some({cpus.text})"
    | .error _ => "None"
  let unread := match v.reading with
    | .ok _ => []
    | .error e => [⟨.debug, s!"Cannot read affinity of thread {v.thread.tid}: {e.message}"⟩]
  unread ++
    [⟨.info, s!"  thread {v.thread.tid} '{v.thread.name}': {before} -> {v.outcome.label}"⟩]

end ThreadVisit

namespace ProcessVisit

def reports (v : ProcessVisit) : List ThreadReport := v.threads.map (·.report v.process)

def log (v : ProcessVisit) : List LogLine :=
  [⟨.info, s!"Found '{v.process.name}' pid {v.process.pid}"⟩,
    ⟨.info, s!"  command line: {Text.quoteList v.process.commandLine}"⟩,
    ⟨.info, s!"  memory: {v.process.memoryBytes / 1024 / 1024} MB"⟩,
    ⟨.info, s!"  connections: {v.sockets.length}"⟩] ++
  v.sockets.map (fun socket => ⟨.info, s!"    {socket.text}"⟩) ++
  v.threads.flatMap ThreadVisit.log

end ProcessVisit

namespace BalanceReport

def ofVisits (filter : String) (visits : List ProcessVisit) : BalanceReport :=
  ⟨filter, visits.length, visits.flatMap ProcessVisit.reports⟩

/-- The lines logged at the end of a pass. -/
def closing (r : BalanceReport) : List LogLine :=
  let unmatched := if r.matched = 0 then
      [⟨.warn, s!"No process matching '{r.filter}' found"⟩]
    else []
  unmatched ++ [⟨.info, s!"Balanced {r.threads.length} threads: {r.applied} applied, " ++
    s!"{r.notFound} not found, {r.denied} denied, {r.failed} failed"⟩]

/-- All lines logged during a pass. -/
def log (filter : String) (visits : List ProcessVisit) : List LogLine :=
  visits.flatMap ProcessVisit.log ++ (ofVisits filter visits).closing

end BalanceReport

/-- Balances the threads of the processes that the filter selects. -/
def ProcessTable.balance {σ : Type} (table : ProcessTable σ) (pins : PinMap) (filter : String)
    (s : σ) : BalanceReport × σ :=
  let (visits, s) := table.pass pins filter s
  (.ofVisits filter visits, s)

end ReadoutControl
