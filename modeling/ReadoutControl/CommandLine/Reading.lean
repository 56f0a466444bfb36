import ReadoutControl.CommandLine.Slot

set_option autoImplicit false

/-!
Reading the words behind a subcommand one after the other. A value that stands apart from its
option is looked at when the next option comes or at the end, so that an unknown word between
them is reported first.
-/

namespace ReadoutControl.CommandLine

/-- The values so far. -/
structure Reading where
  given : List (String × Value)
  /-- The slot that was named last, with its word if that has come. -/
  pending : Option (Slot × Option String)
  /-- Whether a positional word has come. -/
  positionalSeen : Bool
  /-- Whether all further words are positional. -/
  trailing : Bool

namespace Reading

def start : Reading := ⟨[], none, false, false⟩

def isGiven (r : Reading) (name : String) : Bool := (r.given.lookup name).isSome

/-- No slot may be given twice. -/
def give (r : Reading) (slot : Slot) (word : String) : Except UsageError Reading :=
  if r.isGiven slot.name then .error .argumentConflict
  else (slot.kind.read word).map fun value => { r with given := (slot.name, value) :: r.given }

def resolve (r : Reading) : Except UsageError Reading :=
  match r.pending with
  | none => .ok r
  | some (_, none) => .error .invalidValue
  | some (slot, some word) => { r with pending := none }.give slot word

/-- A named slot, with the word attached to its name if there is one. -/
def name (r : Reading) (slot : Slot) (attached : Option String) : Except UsageError Reading := do
  let r ← r.resolve
  if slot.kind.takesValue then
    match attached with
    | some word => r.give slot word
    | none => .ok { r with pending := some (slot, none) }
  else r.give slot ""

def positional (s : Signature) (r : Reading) (word : String) : Except UsageError Reading :=
  match s.positional with
  | none => .error .unknownArgument
  | some slot =>
    if r.positionalSeen then .error .unknownArgument
    else r.resolve.map fun r => { r with pending := some (slot, some word), positionalSeen := true }

/-- The slot that waits for the next word. -/
def awaiting? (r : Reading) : Option Slot :=
  match r.pending with
  | some (slot, none) => some slot
  | _ => none

/-- A word that names nothing: the value that is waited for, or a positional word. -/
def value (s : Signature) (r : Reading) (word : String) : Except UsageError Reading :=
  match r.awaiting? with
  | some slot => .ok { r with pending := some (slot, some word) }
  | none => r.positional s word

/-- The word after two dashes: a name, and a value after an equals sign. -/
def long (s : Signature) (r : Reading) (body : List Char) : Except UsageError Reading :=
  let name := String.ofList (body.takeWhile (· ≠ '='))
  let attached := match body.dropWhile (· ≠ '=') with
    | [] => none
    | _ :: word => some (String.ofList word)
  match s.named? name with
  | none => if name = "help" then helpAsked r attached else .error .unknownArgument
  | some slot =>
    if !slot.kind.takesValue && attached.isSome then .error .tooManyValues
    else r.name slot attached
where
  helpAsked (r : Reading) (attached : Option String) : Except UsageError Reading :=
    if attached.isSome then .error .tooManyValues
    else r.resolve.bind fun _ => .error .displayHelp

/-- The letters after one dash. A letter that takes a value takes the rest of the word, without
an equals sign at its start. -/
def letters (s : Signature) (r : Reading) : List Char → Except UsageError Reading
  | [] => .ok r
  | letter :: rest =>
    match s.lettered? letter with
    | none =>
      if letter = 'h' then r.resolve.bind fun _ => .error .displayHelp
      else .error .unknownArgument
    | some slot =>
      if slot.kind.takesValue then
        r.name slot (match rest with
          | [] => none
          | '=' :: word => some (String.ofList word)
          | word => some (String.ofList word))
      else (r.name slot none).bind fun r => letters s r rest

/-- Digits with at most one point and one exponent, neither of them first. -/
def isNumber (cs : List Char) : Bool :=
  go 0 false false cs
where
  go (i : Nat) (point exponent : Bool) : List Char → Bool
    | [] => true
    | c :: rest =>
      if c.isDigit then go (i + 1) point exponent rest
      else if c = '.' ∧ !point ∧ !exponent ∧ 0 < i then go (i + 1) true exponent rest
      else if (c = 'e' ∨ c = 'E') ∧ !exponent ∧ 0 < i ∧ !rest.isEmpty then
        go (i + 1) point true rest
      else false

def step (s : Signature) (r : Reading) (word : String) : Except UsageError Reading :=
  if r.trailing then r.positional s word
  else match word.toList with
    | ['-', '-'] => .ok { r with trailing := true }
    | '-' :: '-' :: body => r.long s body
    | '-' :: c :: rest =>
      if (r.awaiting?.any (·.negative)) && isNumber (c :: rest) then r.value s word
      else r.letters s (c :: rest)
    | _ => r.value s word

/-- What the environment gives counts unless the command line gives it. -/
def addEnvironment (s : Signature) (environment : Option String) (r : Reading) :
    Except UsageError Reading :=
  match s.fromEnvironment, environment with
  | some slot, some word => if r.isGiven slot.name then .ok r else r.give slot word
  | _, _ => .ok r

def finish (s : Signature) (environment : Option String) (r : Reading) :
    Except UsageError (List (String × Value)) := do
  let r ← (← r.resolve).addEnvironment s environment
  if s.options.any fun slot => slot.required && !r.isGiven slot.name then
    .error .missingRequired
  else .ok r.given

end Reading

/-- The values given behind a subcommand, by the names of their slots. -/
def Signature.read (s : Signature) (environment : Option String) (words : List String) :
    Except UsageError (List (String × Value)) :=
  (words.foldlM (Reading.step s) Reading.start).bind (Reading.finish s environment)

end ReadoutControl.CommandLine
