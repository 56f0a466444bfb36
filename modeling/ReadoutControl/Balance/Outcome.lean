import ReadoutControl.Balance.PinMap
import ReadoutControl.Balance.Process
import ReadoutControl.Text.Quoted

set_option autoImplicit false

/-!
What becomes of a thread: it is given its CPUs, has none in the map, or cannot be changed.
-/

namespace ReadoutControl

/-- Why a thread has no CPUs in a map. -/
inductive LookupMiss where
  | noAppName
  | unknownApp (app : String)
  | unknownThread (app thread : String)
  deriving DecidableEq

namespace LookupMiss

def message : LookupMiss → String
  | noAppName => "no --name argument"
  | unknownApp app => s!"app '{app}' not in pin file"
  | unknownThread app thread => s!"thread '{thread}' not listed for '{app}'"

def toJson : LookupMiss → Json
  | noAppName => .str "no_app_name"
  | unknownApp app => .obj [("unknown_app", .str app)]
  | unknownThread app thread =>
    .obj [("unknown_thread", .obj [("app", .str app), ("thread", .str thread)])]

/-- The miss as the log shows it. -/
def label : LookupMiss → String
  | noAppName => "NoAppName"
  | unknownApp app => s!"UnknownApp({Text.quote app})"
  | unknownThread app thread =>
    s!"UnknownThread \x7b app: {Text.quote app}, thread: {Text.quote thread} \x7d"

end LookupMiss

inductive Outcome where
  | applied (cpus : CpuSet)
  | notFound (miss : LookupMiss)
  | permissionDenied
  | failed (reason : String)
  deriving DecidableEq

namespace Outcome

def isApplied : Outcome → Bool
  | applied _ => true
  | _ => false

def isNotFound : Outcome → Bool
  | notFound _ => true
  | _ => false

def isDenied : Outcome → Bool
  | permissionDenied => true
  | _ => false

def isFailed : Outcome → Bool
  | failed _ => true
  | _ => false

def toJson : Outcome → Json
  | applied cpus => .obj [("status", .str "applied"), ("detail", .obj [("cpus", cpus.toJson)])]
  | notFound miss => .obj [("status", .str "not_found"), ("detail", miss.toJson)]
  | permissionDenied => .obj [("status", .str "permission_denied")]
  | failed reason => .obj [("status", .str "failed"), ("detail", .str reason)]

/-- The outcome as the log shows it. -/
def label : Outcome → String
  | applied cpus => s!"Applied \x7b cpus: {cpus.text} \x7d"
  | notFound miss => s!"NotFound({miss.label})"
  | permissionDenied => "PermissionDenied"
  | failed reason => s!"Failed({Text.quote reason})"

end Outcome

structure ThreadReport where
  pid : UInt32
  process : String
  app : Option String
  tid : UInt32
  thread : String
  /-- The CPUs before, when they could be read. -/
  previous : Option CpuSet
  outcome : Outcome
  deriving DecidableEq

namespace ThreadReport

def toJson (r : ThreadReport) : Json :=
  .obj [
    ("pid", .ofNat r.pid.toNat),
    ("process", .str r.process),
    ("app", (r.app.map Json.str).getD .null),
    ("tid", .ofNat r.tid.toNat),
    ("thread", .str r.thread),
    ("previous", (r.previous.map CpuSet.toJson).getD .null),
    ("outcome", r.outcome.toJson)]

end ThreadReport

structure BalanceReport where
  filter : String
  /-- How many processes the filter selects. -/
  matched : Nat
  threads : List ThreadReport
  deriving DecidableEq

namespace BalanceReport

def count (r : BalanceReport) (p : Outcome → Bool) : Nat := r.threads.countP fun t => p t.outcome

def applied (r : BalanceReport) : Nat := r.count Outcome.isApplied

def notFound (r : BalanceReport) : Nat := r.count Outcome.isNotFound

def denied (r : BalanceReport) : Nat := r.count Outcome.isDenied

def failed (r : BalanceReport) : Nat := r.count Outcome.isFailed

/-- The outcome of the first thread of that name. -/
def outcomeFor? (r : BalanceReport) (thread : String) : Option Outcome :=
  (r.threads.find? (·.thread = thread)).map (·.outcome)

def toJson (r : BalanceReport) : Json :=
  .obj [
    ("process_filter", .str r.filter),
    ("processes_matched", .ofNat r.matched),
    ("threads", .arr (r.threads.map ThreadReport.toJson))]

/-- The report as a JSON text, with its fields as declared. -/
def jsonText (r : BalanceReport) : String := r.toJson.report

end BalanceReport

end ReadoutControl
