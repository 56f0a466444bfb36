import ReadoutControl.Balance.ThreadTable
import ReadoutControl.Program.Job

set_option autoImplicit false

/-!
A whole run of the program over a tree of files.
-/

namespace ReadoutControl

open CommandLine (Delivery Invocation UsageError)

structure RunResult where
  exitCode : Nat
  shown : String
  /-- The message of the error that ended the run. -/
  error : Option String
  files : FileTree

namespace RunResult

def done (shown : String) (files : FileTree) : RunResult := ⟨0, shown, none, files⟩

def failed (shown : String) (files : FileTree) : JobError → RunResult
  | .reported message => ⟨1, shown, some message, files⟩
  | .overflow _ => ⟨101, shown, none, files⟩

end RunResult

def version : String := "daq-confgen 0.1.0"

def saveProduct (p : Product) (t : FileTree) : RunResult :=
  let made : Except JobError FileTree := match p.file.parent? with
    | none => .ok t
    | some directory => (t.makeDirectories directory).mapError (directoryFailed directory)
  match made with
  | .error e => .failed p.shown t e
  | .ok t =>
    match t.write p.file p.content with
    | .error e => .failed p.shown t (writingFailed p.file e)
    | .ok t => .done (p.shown ++ p.completed) t

def runApplication (a : Application) (delivery : Delivery) (t : FileTree) : RunResult :=
  match a.product delivery t.read with
  | .error e => .failed "" t e
  | .ok p => saveProduct p t

/-- Runs an invocation where no process can be balanced. -/
def runInvocation (t : FileTree) : Invocation → RunResult
  | .fakeReadout settings delivery => runApplication (.fakeReadout settings) delivery t
  | .miniDaq settings delivery => runApplication (.miniDaq settings) delivery t
  | .balance process pinFile form =>
    let pins := t.read (.ofText pinFile)
    let shown := balanceShown ThreadTable.access process pinFile form pins (ThreadTable.empty 0)
    .done shown.1 t

/-- Wrong words for the balancing subcommand are no failure. -/
def runUsage (words : List String) (t : FileTree) (e : UsageError) : RunResult :=
  let shown := if e = .displayVersion then version ++ "\n" else ""
  ⟨if CommandLine.asksForBalance words then 0 else e.exitCode, shown, none, t⟩

def run (environment : Option String) (words : List String) (t : FileTree) : RunResult :=
  match CommandLine.read environment words with
  | .error e => runUsage words t e
  | .ok invocation => runInvocation t invocation

end ReadoutControl
