import ReadoutControl.CommandLine.Reading
import ReadoutControl.FakeReadout.Settings
import ReadoutControl.MiniDaq.Settings

set_option autoImplicit false

/-!
What a command line asks for.
-/

namespace ReadoutControl.CommandLine

/-- Where a generator takes its plugins from and where it writes. -/
structure Delivery where
  schema : Option String
  /-- Whether the commands are shown too. -/
  echo : Bool
  file : String
  deriving DecidableEq

inductive ReportForm where
  | json
  | table
  deriving DecidableEq

namespace ReportForm

def name : ReportForm → String
  | json => "json"
  | table => "table"

end ReportForm

inductive Invocation where
  | fakeReadout (settings : FakeReadout) (delivery : Delivery)
  | miniDaq (settings : MiniDaq) (delivery : Delivery)
  | balance (process pinFile : String) (form : ReportForm)
  deriving DecidableEq

abbrev Given := List (String × Value)

namespace Given

def text (g : Given) (name default : String) : String :=
  match List.lookup name g with
  | some (.text s) => s
  | _ => default

def text? (g : Given) (name : String) : Option String :=
  match List.lookup name g with
  | some (.text s) => some s
  | _ => none

def flag (g : Given) (name : String) : Bool := (List.lookup name g).isSome

def count32 (g : Given) (name : String) (default : UInt32) : UInt32 :=
  match List.lookup name g with
  | some (.count32 n) => n
  | _ => default

def count32? (g : Given) (name : String) : Option UInt32 :=
  match List.lookup name g with
  | some (.count32 n) => some n
  | _ => none

def count64 (g : Given) (name : String) (default : UInt64) : UInt64 :=
  match List.lookup name g with
  | some (.count64 n) => n
  | _ => default

def signed (g : Given) (name : String) (default : Int64) : Int64 :=
  match List.lookup name g with
  | some (.signed n) => n
  | _ => default

def number (g : Given) (name : String) (default : Binary64) : Binary64 :=
  match List.lookup name g with
  | some (.number x) => x
  | _ => default

end Given

def schemaSlot : Slot := { name := "schema", kind := .path }

def deliverySlots : List Slot := [schemaSlot, { name := "echo", kind := .flag }]

def fileSlot : Slot := { name := "JSON_FILE", kind := .path }

/-- The options that all generators have. -/
def generatorSlots : List Slot :=
  [{ name := "number-of-data-producers", kind := .count32, letter := some 'n' },
    { name := "data-rate-slowdown-factor", kind := .number, letter := some 's' },
    { name := "run-number", kind := .count64, letter := some 'r' },
    { name := "data-file", kind := .text, letter := some 'd' }]

def fakeReadoutSignature : Signature where
  options := generatorSlots ++ deliverySlots ++
    [{ name := "number-of-tp-producers", kind := .count32, letter := some 't' },
      { name := "tp-data-file", kind := .text },
      { name := "enable-software-tpg", kind := .flag }]
  positional := some fileSlot
  fromEnvironment := some schemaSlot

def miniDaqSignature : Signature where
  options := generatorSlots ++ deliverySlots ++
    [{ name := "emulator-mode", kind := .flag, letter := some 'e' },
      { name := "trigger-rate-hz", kind := .number, letter := some 't' },
      { name := "output-path", kind := .text, letter := some 'o' },
      { name := "disable-data-storage", kind := .flag },
      { name := "token-count", kind := .signed, letter := some 'c', negative := true },
      { name := "recording-dir", kind := .text },
      { name := "record-duration", kind := .count32 }]
  positional := some fileSlot
  fromEnvironment := some schemaSlot

def balanceSignature : Signature where
  options :=
    [{ name := "process", kind := .text, letter := some 'p', required := true },
      { name := "pinfile", kind := .path, letter := some 'f', required := true },
      { name := "output-format", kind := .choice ["json", "table"] }]
  positional := none
  fromEnvironment := none

def deliveryOf (g : Given) (defaultFile : String) : Delivery where
  schema := g.text? "schema"
  echo := g.flag "echo"
  file := g.text "JSON_FILE" defaultFile

def fakeReadoutOf (g : Given) : Invocation :=
  let s := FakeReadout.standard
  .fakeReadout {
    dataLinks := g.count32 "number-of-data-producers" s.dataLinks
    tpLinks := g.count32 "number-of-tp-producers" s.tpLinks
    slowdown := g.number "data-rate-slowdown-factor" s.slowdown
    run := g.count64 "run-number" s.run
    dataFile := g.text "data-file" s.dataFile
    tpDataFile := g.text "tp-data-file" s.tpDataFile
    softwareTpg := g.flag "enable-software-tpg" } (deliveryOf g FakeReadout.defaultFile)

def miniDaqOf (g : Given) : Invocation :=
  let s := MiniDaq.standard
  .miniDaq {
    dataLinks := g.count32 "number-of-data-producers" s.dataLinks
    emulatorMode := g.flag "emulator-mode"
    slowdown := g.number "data-rate-slowdown-factor" s.slowdown
    run := g.count64 "run-number" s.run
    triggerRateHz := g.number "trigger-rate-hz" s.triggerRateHz
    dataFile := g.text "data-file" s.dataFile
    outputDirectory := g.text "output-path" s.outputDirectory
    disableStorage := g.flag "disable-data-storage"
    tokenCount := g.signed "token-count" s.tokenCount
    recordingDirectory := g.text "recording-dir" s.recordingDirectory
    recordSeconds := g.count32? "record-duration" } (deliveryOf g MiniDaq.defaultFile)

def balanceOf (g : Given) : Invocation :=
  .balance (g.text "process" "") (g.text "pinfile" "")
    (if g.text? "output-format" = some "json" then .json else .table)

inductive Subcommand where
  | fakeReadout
  | miniDaq
  | balance
  deriving DecidableEq

namespace Subcommand

def name : Subcommand → String
  | fakeReadout => "fake-readout"
  | miniDaq => "minidaq"
  | balance => "balance"

def all : List Subcommand := [fakeReadout, miniDaq, balance]

def ofName? (name : String) : Option Subcommand := all.find? (·.name = name)

def read (s : Subcommand) (environment : Option String) (words : List String) :
    Except UsageError Invocation :=
  match s with
  | fakeReadout => (fakeReadoutSignature.read environment words).map fakeReadoutOf
  | miniDaq => (miniDaqSignature.read environment words).map miniDaqOf
  | balance => (balanceSignature.read environment words).map balanceOf

end Subcommand

/-- Asks for help on a subcommand, on `help` itself or on the whole. -/
def helpOn : List String → UsageError
  | [] => .displayHelp
  | [topic] =>
    if topic = "help" ∨ (Subcommand.ofName? topic).isSome then .displayHelp
    else .invalidSubcommand
  | _ => .invalidSubcommand

/-- The first word is a subcommand, or a flag that asks for help or the version. -/
def read (environment : Option String) : List String → Except UsageError Invocation
  | [] => .error .helpOnMissing
  | word :: rest =>
    match Subcommand.ofName? word with
    | some s => s.read environment rest
    | none =>
      if word = "help" then .error (helpOn rest)
      else match word.toList with
        | ['-', '-'] => .error (afterDashes rest)
        | '-' :: '-' :: body => .error (longFlag body)
        | '-' :: letter :: _ => .error (shortFlag letter)
        | _ => .error .invalidSubcommand
where
  afterDashes : List String → UsageError
    | [] => .helpOnMissing
    | word :: _ =>
      if word = "help" ∨ (Subcommand.ofName? word).isSome then .unknownArgument
      else .invalidSubcommand
  longFlag (body : List Char) : UsageError :=
    let asked := match String.ofList (body.takeWhile (· ≠ '=')) with
      | "help" => some UsageError.displayHelp
      | "version" => some UsageError.displayVersion
      | _ => none
    match asked with
    | none => .unknownArgument
    | some flag => if body.contains '=' then .tooManyValues else flag
  shortFlag : Char → UsageError
    | 'h' => .displayHelp
    | 'V' => .displayVersion
    | _ => .unknownArgument

/-- Whether the words begin with the balancing subcommand, whatever follows. -/
def asksForBalance (words : List String) : Bool := words.head? = some "balance"

end ReadoutControl.CommandLine
