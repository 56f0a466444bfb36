import ReadoutControl.Balance.Outcome
import ReadoutControl.Text.Table

set_option autoImplicit false

/-!
A balance report as a table for people.
-/

namespace ReadoutControl

/-- The numbers of a set with commas between them. -/
def CpuSet.cell (s : CpuSet) : String := if s.isEmpty then "-" else s.joined ","

def Outcome.cell : Outcome → String
  | applied cpus => s!"pinned {cpus.cell}"
  | notFound miss => s!"skipped: {miss.message}"
  | permissionDenied => "permission denied"
  | failed reason => s!"failed: {reason}"

def ThreadReport.cells (r : ThreadReport) : List String :=
  [toString r.pid, r.process, r.app.getD "-", toString r.tid, r.thread,
    (r.previous.map CpuSet.cell).getD "?", r.outcome.cell]

namespace BalanceReport

def header : List String := ["PID", "Process", "App", "TID", "Thread", "Before", "Outcome"]

/-- The table of the threads, with the totals below it. -/
def tableText (r : BalanceReport) : String :=
  Text.table header (r.threads.map ThreadReport.cells) ++
    s!"\nProcesses matching '{r.filter}': {r.matched}\n" ++
    s!"Threads: {r.applied} pinned, {r.notFound} skipped, {r.denied} denied, {r.failed} failed\n"

end BalanceReport

end ReadoutControl
