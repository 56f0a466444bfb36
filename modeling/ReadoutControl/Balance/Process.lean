import ReadoutControl.Balance.CpuSet
import ReadoutControl.Net.Socket

set_option autoImplicit false

/-!
Processes with their threads, and the table through which the CPUs of threads are read and set.
Listing changes nothing; setting may change the state of the table.
-/

namespace ReadoutControl

/-- The application that a command line names: the word after the first `--name`. -/
def namedApp? (commandLine : List String) : Option String :=
  match commandLine.dropWhile (· ≠ "--name") with
  | _ :: app :: _ => some app
  | _ => none

structure Process where
  pid : UInt32
  name : String
  commandLine : List String
  memoryBytes : UInt64
  deriving DecidableEq

namespace Process

def app? (p : Process) : Option String := namedApp? p.commandLine

/-- Whether a text occurs in another. -/
def occursIn (part : List Char) : List Char → Bool
  | [] => part.isEmpty
  | c :: rest => part.isPrefixOf (c :: rest) || occursIn part rest

/-- Whether the name of the process contains the filter. -/
def matchesFilter (p : Process) (filter : String) : Bool := occursIn filter.toList p.name.toList

end Process

structure Thread where
  tid : UInt32
  name : String
  deriving DecidableEq

/-- Why the CPUs of a thread cannot be read or set. -/
inductive AffinityError where
  | permissionDenied (tid : UInt32)
  | noSuchThread (tid : UInt32)
  | invalidCpu (cpu : UInt64)
  | refused (tid : UInt32) (reason : String)
  | unsupported
  deriving DecidableEq

namespace AffinityError

def message : AffinityError → String
  | permissionDenied tid => s!"Permission denied changing affinity of thread {tid}"
  | noSuchThread tid => s!"Thread {tid} no longer exists"
  | invalidCpu cpu => s!"CPU {cpu} is out of range"
  | refused tid reason => s!"Affinity call for thread {tid} failed: {reason}"
  | unsupported => "Thread affinity is not supported on this platform"

end AffinityError

/-- Access to processes, by a state that setting may change. -/
structure ProcessTable (σ : Type) where
  processes : σ → List Process
  threads : σ → UInt32 → List Thread
  sockets : σ → UInt32 → List Socket
  affinity : σ → UInt32 → Except AffinityError CpuSet
  setAffinity : σ → UInt32 → CpuSet → Except AffinityError Unit × σ

end ReadoutControl
