import ReadoutControl.Balance.Pass
import ReadoutControl.Balance.Table
import ReadoutControl.Command.Document
import ReadoutControl.CommandLine.Invocation
import ReadoutControl.FakeReadout.Commands
import ReadoutControl.MiniDaq.Commands
import ReadoutControl.Plugin.SchemaText
import ReadoutControl.Program.FileTree

set_option autoImplicit false

/-!
What the program does for an invocation, apart from files and processes: each job is a function
of what it has read.
-/

namespace ReadoutControl

open CommandLine (Delivery ReportForm)

/-- Why a job ends early. An overflow ends the program at once. -/
inductive JobError where
  | reported (message : String)
  | overflow (o : Overflow)
  deriving DecidableEq

/-- An application to be generated. -/
inductive Application where
  | fakeReadout (settings : FakeReadout)
  | miniDaq (settings : MiniDaq)

namespace Application

def name : Application → String
  | fakeReadout _ => "fake readout"
  | miniDaq _ => "mini DAQ"

def generate (a : Application) (registry : Registry) : Except Fault CommandSequence :=
  match a with
  | fakeReadout settings => settings.generate registry
  | miniDaq settings => settings.generate registry

def log (a : Application) (registry : Registry) : List LogLine :=
  match a with
  | fakeReadout settings => settings.log registry
  | miniDaq settings => settings.log registry

end Application

def JobError.ofFault (a : Application) : Fault → JobError
  | .overflow o => .overflow o
  | fault => .reported (fault.message a.name)

/-- A schema that cannot be read is reported with the reason twice: once in the message and once
as its cause. -/
def schemaUnread (path : String) (e : FileError) : JobError :=
  .reported (s!"Failed to load plugin schema from {Text.quote path}: " ++
    s!"Failed to read schema file: {e.message}: {e.message}")

def schemaMalformed (path : String) : JobError :=
  .reported s!"Failed to load plugin schema from {Text.quote path}: Failed to parse YAML: "

/-- The registry in a file, or the built-in one if none is named. -/
def registryFor (schema : Option String) (read : Path → Except FileError String) :
    Except JobError Registry :=
  match schema with
  | none => .ok .builtin
  | some path =>
    match read (.ofText path) with
    | .error e => .error (schemaUnread path e)
    | .ok text =>
      match Registry.ofYaml? text with
      | none => .error (schemaMalformed path)
      | some registry => .ok registry

/-- What a generator shows and writes. -/
structure Product where
  shown : String
  file : Path
  content : String
  /-- Shown when the file is written. -/
  completed : String

/-- The lines of the blocks, if they are to be shown. -/
def shownBlocks (echo : Bool) (s : CommandSequence) : String :=
  if echo then String.join (s.blocks.map (· ++ "\n")) else ""

def Application.product (a : Application) (delivery : Delivery)
    (read : Path → Except FileError String) : Except JobError Product := do
  let registry ← registryFor delivery.schema read
  let sequence ← (a.generate registry).mapError (JobError.ofFault a)
  return {
    shown := shownBlocks delivery.echo sequence
    file := .ofText delivery.file
    content := sequence.document
    completed := s!"'{delivery.file}' generation completed.\n" }

def directoryFailed (directory : Path) (e : FileError) : JobError :=
  .reported s!"Failed to create output directory: {Text.quote directory.text}: {e.message}"

def writingFailed (file : Path) (e : FileError) : JobError :=
  .reported s!"Failed to write {Text.quote file.text}: {e.message}"

def BalanceReport.rendered (r : BalanceReport) : ReportForm → String
  | .json => r.jsonText
  | .table => r.tableText

/-- What balancing shows. A pin file that cannot be loaded is told and nothing is done. -/
def balanceShown {σ : Type} (table : ProcessTable σ) (process pinFile : String)
    (form : ReportForm) (pins : Except FileError String) (s : σ) : String × σ :=
  match pins with
  | .error e => (s!"Failed to read pin file '{pinFile}': {e.message}\n", s)
  | .ok text =>
    match PinMap.ofText? text with
    | none => ("Invalid pin file: ", s)
    | some pins =>
      let (report, s) := table.balance pins process s
      (report.rendered form ++ "\n", s)

end ReadoutControl
