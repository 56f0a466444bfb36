import ReadoutControl.Number.Decimal
import ReadoutControl.Text.Numeral

set_option autoImplicit false

/-!
The places for values on a command line: options, flags and positional words.
-/

namespace ReadoutControl.CommandLine

/-- Why a command line is not carried out. -/
inductive UsageError where
  | unknownArgument
  /-- A value is missing, empty or none of the choices. -/
  | invalidValue
  /-- A number cannot be read or is out of range. -/
  | valueValidation
  | argumentConflict
  | tooManyValues
  | missingRequired
  | invalidSubcommand
  | displayHelp
  | displayVersion
  | helpOnMissing
  deriving DecidableEq

namespace UsageError

/-- Asking for help or the version is no failure. -/
def exitCode : UsageError → Nat
  | displayHelp => 0
  | displayVersion => 0
  | _ => 2

end UsageError

inductive Value where
  | flag
  | text (s : String)
  | count32 (n : UInt32)
  | count64 (n : UInt64)
  | signed (n : Int64)
  | number (x : Binary64)
  deriving DecidableEq

/-- What a value must be. -/
inductive Kind where
  | flag
  | text
  /-- A text that is not empty. -/
  | path
  /-- A count that may carry a sign, also a minus before zero. -/
  | count32
  | count64
  | signed
  | number
  | choice (words : List String)
  deriving DecidableEq

namespace Kind

/-- Whether a word follows. -/
def takesValue (k : Kind) : Bool := k ≠ flag

def orInvalid (error : UsageError) (value : Option Value) : Except UsageError Value :=
  match value with
  | some v => .ok v
  | none => .error error

def read (k : Kind) (word : String) : Except UsageError Value :=
  let cs := word.toList
  match k with
  | flag => .ok .flag
  | text => .ok (.text word)
  | path => if word.isEmpty then .error .invalidValue else .ok (.text word)
  | choice words => if words.contains word then .ok (.text word) else .error .invalidValue
  | count32 => orInvalid .valueValidation
      ((Text.integer? 0 (UInt32.size - 1) cs).map fun n => .count32 (.ofNat n.toNat))
  | count64 => orInvalid .valueValidation
      ((Text.natural? 10 UInt64.size cs).map fun n => .count64 (.ofNat n))
  | signed => orInvalid .valueValidation
      ((Text.integer? Int64.minValue.toInt Int64.maxValue.toInt cs).map fun n => .signed (.ofInt n))
  | number => orInvalid .valueValidation ((Binary64.ofText? word).map .number)

end Kind

structure Slot where
  name : String
  kind : Kind
  letter : Option Char := none
  /-- Whether a following word may be a negative number. -/
  negative : Bool := false
  required : Bool := false
  deriving DecidableEq

/-- What can follow a subcommand. -/
structure Signature where
  options : List Slot
  positional : Option Slot
  /-- The option that the environment may give. -/
  fromEnvironment : Option Slot

namespace Signature

def named? (s : Signature) (name : String) : Option Slot := s.options.find? (·.name = name)

def lettered? (s : Signature) (letter : Char) : Option Slot :=
  s.options.find? (·.letter = some letter)

end Signature

end ReadoutControl.CommandLine
