import ReadoutControl.Program.Run

set_option autoImplicit false

/-!
The program: it reads its words, the environment and files, and carries out what they ask for.
-/

namespace ReadoutControl.Shell

open CommandLine (Delivery ReportForm)

def fileErrorOf : IO.Error → FileError
  | .noFileOrDirectory .. => .notFound
  | .alreadyExists .. => .alreadyExists
  | .inappropriateType .. => .isDirectory
  | _ => .notDirectory

/-- The answer of a file operation. -/
def attempt {α : Type} (operation : IO α) : IO (Except FileError α) := do
  try return .ok (← operation)
  catch e => return .error (fileErrorOf e)

def readPath (path : Path) : IO (Except FileError String) := attempt (IO.FS.readFile path.text)

/-- Ends with the exit code of an error, after telling it. -/
def fail (e : JobError) : IO UInt32 := do
  match e with
  | .reported message =>
    IO.eprintln s!"Error: {message}"
    return 1
  | .overflow o =>
    IO.eprintln o.message
    return 101

def save (p : Product) : IO UInt32 := do
  IO.print p.shown
  if let some directory := p.file.parent? then
    if let .error e ← attempt (IO.FS.createDirAll directory.text) then
      return ← fail (directoryFailed directory e)
  match ← attempt (IO.FS.writeFile p.file.text p.content) with
  | .error e => fail (writingFailed p.file e)
  | .ok _ =>
    IO.print p.completed
    return 0

def generate (a : Application) (delivery : Delivery) : IO UInt32 := do
  let schema : Except FileError String ← match delivery.schema with
    | none => pure (.ok "")
    | some path => readPath (.ofText path)
  if let .ok registry := registryFor delivery.schema (fun _ => schema) then
    for line in a.log registry do
      if line.level ≠ .debug then IO.eprintln line.text
  match a.product delivery (fun _ => schema) with
  | .error e => fail e
  | .ok p => save p

/-- Balances an empty table: the CPUs of live threads cannot be set from here. -/
def balance (process pinFile : String) (form : ReportForm) : IO UInt32 := do
  let pins ← readPath (.ofText pinFile)
  IO.print (balanceShown ThreadTable.access process pinFile form pins (ThreadTable.empty 0)).1
  return 0

def carryOut (words : List String) : IO UInt32 := do
  match CommandLine.read (← IO.getEnv "DAQ_CONFGEN_SCHEMA") words with
  | .error e =>
    if e = .displayVersion then IO.println version
    return if CommandLine.asksForBalance words then 0 else .ofNat e.exitCode
  | .ok (.fakeReadout settings delivery) => generate (.fakeReadout settings) delivery
  | .ok (.miniDaq settings delivery) => generate (.miniDaq settings) delivery
  | .ok (.balance process pinFile form) => balance process pinFile form

end ReadoutControl.Shell

def main (words : List String) : IO UInt32 := ReadoutControl.Shell.carryOut words
