import ReadoutControl.Yaml.Cursor

set_option autoImplicit false

/-!
The text of YAML scalars: quoted, plain and in blocks. Where a scalar is broken over lines, its
line ends are folded: one becomes a space, and of several the first is dropped.
-/

namespace ReadoutControl.Yaml

/-- The blanks and line ends between two words of a scalar. -/
structure Gap where
  blanks : List Char
  /-- The first line end, which may be one that was escaped and leaves no text. -/
  firstBreak : Option (List Char)
  moreBreaks : List Char

namespace Gap

def none : Gap := ⟨[], Option.none, []⟩

def isBroken (g : Gap) : Bool := g.firstBreak.isSome

/-- What the gap leaves in the text. -/
def folded (g : Gap) : List Char :=
  match g.firstBreak with
  | Option.none => g.blanks
  | some first =>
    if first = ['\n'] then if g.moreBreaks.isEmpty then [' '] else g.moreBreaks
    else first ++ g.moreBreaks

/-- Takes blanks and line ends. A tab before column `tabLimit` of a later line is refused. -/
def take? (tabLimit : Nat) (g : Gap) (c : Cursor) : Option (Gap × Cursor) :=
  go c.rest.length g c
where
  go : Nat → Gap → Cursor → Option (Gap × Cursor)
    | 0, g, c => some (g, c)
    | fuel + 1, g, c =>
      match c.rest with
      | [] => some (g, c)
      | b :: _ =>
        if isBlank b then
          if g.isBroken then
            if b = '\t' ∧ c.column < tabLimit then Option.none else go fuel g (c.skip 1)
          else go fuel { g with blanks := g.blanks ++ [b] } (c.skip 1)
        else if isBreak b then
          let (text, next) := c.takeBreak
          if g.isBroken then go fuel { g with moreBreaks := g.moreBreaks ++ text } next
          else go fuel { g with firstBreak := some text } next
        else some (g, c)

end Gap

/-- The value of hexadecimal digits. -/
def hexValue? (cs : List Char) : Option Nat :=
  cs.foldlM (fun n c =>
    if c.isDigit then some (16 * n + (c.toNat - 48))
    else if 'a' ≤ c ∧ c ≤ 'f' then some (16 * n + (c.toNat - 87))
    else if 'A' ≤ c ∧ c ≤ 'F' then some (16 * n + (c.toNat - 55))
    else Option.none) 0

def charOfCode? (n : Nat) : Option Char :=
  if n.isValidChar then some (Char.ofNat n) else Option.none

/-- Escapes that stand for one character each. -/
def escapes : List (Char × Nat) :=
  [('0', 0), ('a', 7), ('b', 8), ('t', 9), ('\t', 9), ('n', 10), ('v', 11), ('f', 12), ('r', 13),
    ('e', 27), (' ', 32), ('"', 34), ('/', 47), ('\\', 92), ('N', 0x85), ('_', 0xA0),
    ('L', 0x2028), ('P', 0x2029)]

/-- How many hexadecimal digits follow an escape. -/
def escapeDigits : Char → Option Nat
  | 'x' => some 2
  | 'u' => some 4
  | 'U' => some 8
  | _ => Option.none

/-- The escape after a backslash: its character and how many characters it takes. -/
def escape? : List Char → Option (Char × Nat)
  | [] => Option.none
  | e :: rest =>
    match escapeDigits e with
    | some count =>
      let digits := rest.take count
      if digits.length < count then Option.none
      else ((hexValue? digits).bind charOfCode?).map (·, count + 1)
    | Option.none => (escapes.lookup e).bind fun n => (charOfCode? n).map (·, 1)

/-- The characters of a quoted scalar up to a gap, the closing quote or an escaped line end, and
how many characters of the text they take. -/
def quotedRun? (quote : Char) (cs : List Char) : Option (List Char × Nat) :=
  match cs with
  | [] => some ([], 0)
  | c :: rest =>
    if isGap c then some ([], 0)
    else if c = quote then
      match rest with
      | d :: after =>
        if quote = '\'' ∧ d = '\'' then
          (quotedRun? quote after).map fun (run, n) => ('\'' :: run, 2 + n)
        else some ([], 0)
      | [] => some ([], 0)
    else if quote = '"' ∧ c = '\\' then
      if rest.head?.any isBreak then some ([], 0)
      else match escape? rest with
        | Option.none => Option.none
        | some (char, taken) =>
          (quotedRun? quote (rest.drop taken)).map fun (run, n) => (char :: run, 1 + taken + n)
    else (quotedRun? quote rest).map fun (run, n) => (c :: run, 1 + n)
termination_by cs.length
decreasing_by all_goals (simp only [List.length_cons, List.length_drop]; omega)

/-- A quoted scalar, from after its opening quote to after its closing one. -/
def quoted? (quote : Char) (c : Cursor) : Option (List Char × Cursor) :=
  go (c.rest.length + 1) c
where
  go : Nat → Cursor → Option (List Char × Cursor)
    | 0, _ => Option.none
    | fuel + 1, c => do
      if c.atDocumentMark || c.rest.isEmpty then Option.none
      let (run, taken) ← quotedRun? quote c.rest
      let c := c.skip taken
      if c.rest.head? = some quote then return (run, c.skip 1)
      let (gap, c) ←
        if c.rest.head? = some '\\' then
          Gap.take? 0 { Gap.none with firstBreak := some [] } (c.skip 1).skipBreak
        else Gap.take? 0 Gap.none c
      let (more, c) ← go fuel c
      return (run ++ gap.folded ++ more, c)

def flowEnds : List Char := [',', '[', ']', '\x7b', '\x7d']

/-- The characters of a plain scalar up to a gap or to what ends the scalar. In flow collections a
colon may not stand before an indicator. -/
def plainRun? (flow : Bool) : List Char → Option (List Char)
  | [] => some []
  | c :: rest =>
    if isGap c then some []
    else if flow && c == ':' &&
        rest.head?.any (['?', ',', '[', ']', '\x7b', '\x7d'].contains ·) then
      Option.none
    else if c == ':' && separates rest.head? then some []
    else if flow && flowEnds.contains c then some []
    else (plainRun? flow rest).map (c :: ·)

/-- A plain scalar whose later lines begin at column `indent` or after it. The gap behind it is
told too. -/
def plain? (flow : Bool) (indent : Nat) (c : Cursor) : Option (List Char × Gap × Cursor) :=
  go (c.rest.length + 1) [] Gap.none c
where
  go : Nat → List Char → Gap → Cursor → Option (List Char × Gap × Cursor)
    | 0, _, _, _ => Option.none
    | fuel + 1, text, gap, c => do
      if c.atDocumentMark || c.rest.head? = some '#' then return (text, gap, c)
      let run ← plainRun? flow c.rest
      let c := c.skip run.length
      let (text, gap) := if run.isEmpty then (text, gap) else (text ++ gap.folded ++ run, Gap.none)
      if !c.rest.head?.any isGap then return (text, gap, c)
      let (gap, c) ← gap.take? indent c
      if !flow && c.column < indent then return (text, gap, c)
      go fuel text gap c

/-- What happens to the line ends behind a block scalar. -/
inductive Chomping where
  | strip
  | clip
  | keep
  deriving DecidableEq

def chomping? : Option Char → Option Chomping
  | some '-' => some .strip
  | some '+' => some .keep
  | _ => Option.none

/-- The indentation indicator, from one to nine. -/
def increment? : Option Char → Option Nat
  | some c => if '1' ≤ c ∧ c ≤ '9' then some (c.toNat - 48) else Option.none
  | Option.none => Option.none

/-- The header of a block scalar: its two indicators in either order, then nothing but a comment. -/
def blockHeader? (c : Cursor) : Option (Chomping × Option Nat × Cursor) :=
  let first := c.rest.head?
  let second := c.rest[1]?
  let (chomping, increment, taken) :=
    match chomping? first, increment? first with
    | some chomping, _ =>
      match increment? second with
      | some n => (chomping, some n, 2)
      | Option.none => (chomping, Option.none, 1)
    | Option.none, some n =>
      match chomping? second with
      | some chomping => (chomping, some n, 2)
      | Option.none => (.clip, some n, 1)
    | Option.none, Option.none => (.clip, Option.none, 0)
  let c := ((c.skip taken).skipWhile isBlank).skipComment
  if c.rest.isEmpty || c.atBreak then some (chomping, increment, c.skipBreak) else Option.none

/-- Takes empty lines and indentation. Without an indentation of the block it is that of its
first line, or of an empty line before it that is longer, but more than the parent's. -/
def blockBreaks? (indent : Option Nat) (least : Nat) (c : Cursor) :
    Option (List Char × Nat × Cursor) :=
  go (c.rest.length + 1) 0 [] c
where
  go : Nat → Nat → List Char → Cursor → Option (List Char × Nat × Cursor)
    | 0, _, _, _ => Option.none
    | fuel + 1, widest, breaks, c =>
      let room := match indent with
        | some n => n - c.column
        | Option.none => c.rest.length
      let c := c.skip ((c.rest.takeWhile (· = ' ')).length.min room)
      let widest := max widest c.column
      if c.rest.head? = some '\t' ∧ (indent.all (c.column < ·)) then Option.none
      else if c.atBreak then
        let (text, next) := c.takeBreak
        go fuel widest (breaks ++ text) next
      else some (breaks, indent.getD (max widest least), c)

/-- The lines of a block scalar. Folded lines are joined where neither begins with a blank. -/
def blockLines? (folds : Bool) (chomping : Chomping) (indent : Nat) (c : Cursor)
    (breaks : List Char) : Option (List Char × Cursor) :=
  go (c.rest.length + 1) [] [] breaks false c
where
  go : Nat → List Char → List Char → List Char → Bool → Cursor → Option (List Char × Cursor)
    | 0, _, _, _, _, _ => Option.none
    | fuel + 1, text, lineEnd, breaks, afterBlank, c =>
      if c.column = indent ∧ !c.rest.isEmpty then do
        let beginsBlank := c.rest.head?.any isBlank
        let joint :=
          if folds && lineEnd == ['\n'] && !afterBlank && !beginsBlank then
            if breaks.isEmpty then [' '] else []
          else lineEnd
        let line := c.rest.takeWhile (!isBreak ·)
        let (lineEnd, next) := (c.skip line.length).takeBreak
        let (after, _, next) ← blockBreaks? (some indent) 1 next
        go fuel (text ++ joint ++ breaks ++ line) lineEnd after beginsBlank next
      else
        let tail := match chomping with
          | .strip => []
          | .clip => lineEnd
          | .keep => lineEnd ++ breaks
        some (text ++ tail, c)

/-- A block scalar inside a collection that begins at column `parent`, from after its mark. -/
def block? (folds : Bool) (parent : Option Nat) (c : Cursor) : Option (List Char × Cursor) := do
  let (chomping, increment, c) ← blockHeader? c
  let least := match parent with
    | some n => n + 1
    | Option.none => 1
  let indent := increment.map (parent.getD 0 + ·)
  let (breaks, indent, c) ← blockBreaks? indent least c
  blockLines? folds chomping indent c breaks

end ReadoutControl.Yaml
