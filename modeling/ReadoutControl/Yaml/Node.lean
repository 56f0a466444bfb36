import ReadoutControl.Yaml.Token

set_option autoImplicit false

/-!
YAML documents as trees. Scalars are not interpreted: all of them are texts. What an anchor names
is kept beside the tree, under the number that its aliases carry.
-/

namespace ReadoutControl.Yaml

inductive Node where
  | scalar (isPlain : Bool) (text : String)
  | sequence (items : List Node)
  | mapping (entries : List (Node × Node))
  | alias (number : Nat)
  deriving Inhabited

namespace Node

/-- What stands where nothing is written. -/
def missing : Node := .scalar true ""

mutual

/-- How many scalars and aliases there are, and starts and ends of collections. -/
def size : Node → Nat
  | .sequence items => itemsSize items + 2
  | .mapping entries => entriesSize entries + 2
  | _ => 1

def itemsSize : List Node → Nat
  | [] => 0
  | item :: rest => item.size + itemsSize rest

def entriesSize : List (Node × Node) → Nat
  | [] => 0
  | (key, value) :: rest => key.size + value.size + entriesSize rest

end

end Node

/-- The tokens to come, and the anchors so far. -/
structure Reader where
  tokens : List Token
  /-- The number of each anchor name. -/
  numbers : List (List Char × Nat)
  /-- What each number stands for. -/
  targets : List (Nat × Node)
  /-- The tag handles of the document. -/
  handles : List (List Char)

namespace Reader

def head? (r : Reader) : Option Token := r.tokens.head?

def advance (r : Reader) : Reader := { r with tokens := r.tokens.tail }

def isAt (r : Reader) (t : Token) : Bool := r.tokens.head? == some t

/-- Whether one of the tokens, or the end, comes next. -/
def isAtAny (r : Reader) (ts : List Token) : Bool := r.tokens.head?.all ts.contains

/-- A name takes the count of names as its number, also when it is given anew. -/
def declare (r : Reader) (name : List Char) : Nat × Reader :=
  let number := r.numbers.length
  (number, { r with numbers := (name, number) :: r.numbers.filter (·.1 ≠ name) })

def handleKnown (r : Reader) : Option (List Char) → Bool
  | none => true
  | some handle => handle == ['!'] || handle == ['!', '!'] || r.handles.contains handle

/-- The anchor and the tag before a node, in either order. The flag tells whether there is one. -/
def properties? (r : Reader) : Option (Option Nat × Bool × Reader) :=
  match r.tokens with
  | .anchor name :: .tag handle :: rest => named name (some handle) rest
  | .tag handle :: .anchor name :: rest => named name (some handle) rest
  | .anchor name :: rest => named name none rest
  | .tag handle :: rest =>
    if r.handleKnown handle then some (none, true, { r with tokens := rest }) else none
  | _ => some (none, false, r)
where
  named (name : List Char) (handle : Option (Option (List Char))) (rest : List Token) :
      Option (Option Nat × Bool × Reader) :=
    if handle.all r.handleKnown then
      let (number, r) := { r with tokens := rest }.declare name
      some (some number, true, r)
    else none

/-- What ends an item without a node. -/
def entryEnds : List Token := [.blockEntry, .blockEnd]

def keyEnds : List Token := [.key, .value, .blockEnd]

mutual

/-- A node. In a block mapping a sequence may begin without an indentation of its own. -/
def node? (fuel : Nat) (inBlock unindented : Bool) (r : Reader) : Option (Node × Reader) :=
  match fuel with
  | 0 => none
  | fuel + 1 =>
    match r.tokens with
    | .alias name :: rest =>
      (r.numbers.lookup name).map fun number => (.alias number, { r with tokens := rest })
    | _ => do
      let (number, marked, r) ← r.properties?
      let (node, r) ← content? fuel inBlock unindented marked r
      return (node, match number with
        | some n => { r with targets := (n, node) :: r.targets }
        | none => r)

def content? (fuel : Nat) (inBlock unindented marked : Bool) (r : Reader) :
    Option (Node × Reader) :=
  match fuel with
  | 0 => none
  | fuel + 1 =>
    match r.tokens with
    | .scalar isPlain text :: _ => some (.scalar isPlain (String.ofList text), r.advance)
    | .flowSequence :: _ => flowItems? fuel true [] r.advance
    | .flowMapping :: _ => flowEntries? fuel true [] r.advance
    | t :: _ =>
      if unindented && t == .blockEntry then unindentedItems? fuel [] r
      else if inBlock && t == .blockSequence then blockItems? fuel [] r.advance
      else if inBlock && t == .blockMapping then blockEntries? fuel [] r.advance
      else if marked then some (.missing, r)
      else none
    | [] => if marked then some (.missing, r) else none

/-- A node, unless one of the tokens shows that nothing is written. -/
def nodeBefore? (fuel : Nat) (ends : List Token) (inBlock unindented : Bool) (r : Reader) :
    Option (Node × Reader) :=
  match fuel with
  | 0 => none
  | fuel + 1 =>
    if r.isAtAny ends then some (.missing, r) else node? fuel inBlock unindented r

def blockItems? (fuel : Nat) (done : List Node) (r : Reader) : Option (Node × Reader) :=
  match fuel with
  | 0 => none
  | fuel + 1 =>
    match r.tokens with
    | .blockEntry :: _ =>
      (nodeBefore? fuel entryEnds true false r.advance).bind fun (item, r) =>
        blockItems? fuel (item :: done) r
    | .blockEnd :: _ => some (.sequence done.reverse, r.advance)
    | _ => none

/-- A sequence without an indentation of its own ends where no further item comes. -/
def unindentedItems? (fuel : Nat) (done : List Node) (r : Reader) : Option (Node × Reader) :=
  match fuel with
  | 0 => none
  | fuel + 1 =>
    match r.tokens with
    | .blockEntry :: _ =>
      (nodeBefore? fuel (.blockEntry :: keyEnds) true false r.advance).bind fun (item, r) =>
        unindentedItems? fuel (item :: done) r
    | _ => some (.sequence done.reverse, r)

def blockEntries? (fuel : Nat) (done : List (Node × Node)) (r : Reader) :
    Option (Node × Reader) :=
  match fuel with
  | 0 => none
  | fuel + 1 =>
    match r.tokens with
    | .key :: _ =>
      (nodeBefore? fuel keyEnds true true r.advance).bind fun (key, r) =>
        let value :=
          if r.isAt .value then nodeBefore? fuel keyEnds true true r.advance
          else some (.missing, r)
        value.bind fun (value, r) => blockEntries? fuel ((key, value) :: done) r
    | .blockEnd :: _ => some (.mapping done.reverse, r.advance)
    | _ => none

/-- The items of a flow sequence. An item may be a mapping of one entry without braces. -/
def flowItems? (fuel : Nat) (first : Bool) (done : List Node) (r : Reader) :
    Option (Node × Reader) :=
  match fuel with
  | 0 => none
  | fuel + 1 =>
    if r.isAt .flowSequenceEnd then some (.sequence done.reverse, r.advance)
    else if !first && !r.isAt .flowEntry then none
    else
      let r := if first then r else r.advance
      if r.isAt .key then
        (onlyPair? fuel r.advance).bind fun (item, r) => flowItems? fuel false (item :: done) r
      else if r.isAt .flowSequenceEnd then some (.sequence done.reverse, r.advance)
      else
        (node? fuel false false r).bind fun (item, r) => flowItems? fuel false (item :: done) r

/-- A mapping of one entry. Without a key the token after its mark is passed over. -/
def onlyPair? (fuel : Nat) (r : Reader) : Option (Node × Reader) :=
  match fuel with
  | 0 => none
  | fuel + 1 =>
    let key :=
      if r.isAtAny [.value, .flowEntry, .flowSequenceEnd] then some (.missing, r.advance)
      else node? fuel false false r
    key.bind fun (key, r) =>
      let value :=
        if r.isAt .value then
          nodeBefore? fuel [.flowEntry, .flowSequenceEnd] false false r.advance
        else some (.missing, r)
      value.map fun (value, r) => (.mapping [(key, value)], r)

/-- The entries of a flow mapping. A key may stand without a value. -/
def flowEntries? (fuel : Nat) (first : Bool) (done : List (Node × Node)) (r : Reader) :
    Option (Node × Reader) :=
  match fuel with
  | 0 => none
  | fuel + 1 =>
    if r.isAt .flowMappingEnd then some (.mapping done.reverse, r.advance)
    else if !first && !r.isAt .flowEntry then none
    else
      let r := if first then r else r.advance
      if r.isAt .key then
        let ends := [.value, .flowEntry, .flowMappingEnd]
        (nodeBefore? fuel ends false false r.advance).bind fun (key, r) =>
          let value :=
            if r.isAt .value then
              nodeBefore? fuel [.flowEntry, .flowMappingEnd] false false r.advance
            else some (.missing, r)
          value.bind fun (value, r) => flowEntries? fuel false ((key, value) :: done) r
      else if r.isAt .flowMappingEnd then some (.mapping done.reverse, r.advance)
      else
        (node? fuel false false r).bind fun (key, r) =>
          flowEntries? fuel false ((key, .missing) :: done) r

end

/-- The directives before a document: at most one version, which is 1.1 or 1.2, and no handle
twice. -/
def directives? (hasVersion : Bool) (handles : List (List Char)) :
    List Token → Option (List (List Char) × List Token)
  | .version major minor :: rest =>
    if hasVersion || major ≠ 1 || (minor ≠ 1 && minor ≠ 2) then none
    else directives? true handles rest
  | .tagHandle handle :: rest =>
    if handles.contains handle then none else directives? hasVersion (handle :: handles) rest
  | rest => some (handles, rest)

end Reader

/-- A document: its tree and what its aliases stand for. -/
structure Document where
  root : Node
  targets : List (Nat × Node)

namespace Document

/-- Whether no content comes before the document ends. -/
def isEmptyBefore : List Token → Bool
  | [] => true
  | t :: _ => match t with
    | .version .. | .tagHandle .. | .documentStart | .documentEnd => true
    | _ => false

/-- The document that begins here, if nothing but its end comes after it. -/
def read? (r : Reader) : Option Document := do
  let (root, r) ← if isEmptyBefore r.tokens then some (Node.missing, r)
    else r.node? (4 * r.tokens.length + 4) true false
  if (r.tokens.dropWhile (· == .documentEnd)).isEmpty then some ⟨root, r.targets⟩ else none

/-- The only document of a text. A text without one holds an empty document. -/
def ofTokens? (tokens : List Token) : Option Document := do
  let (handles, rest) ← Reader.directives? false [] tokens
  match rest with
  | .documentStart :: rest => read? ⟨rest, [], [], handles⟩
  | rest => if rest.length < tokens.length then none else read? ⟨rest, [], [], []⟩

def ofText? (text : String) : Option Document := (tokens? text.toList).bind ofTokens?

/-- How many aliases may be followed, which keeps a small document from standing for a huge one. -/
def aliasLimit (d : Document) : Nat := 100 * d.root.size

end Document

/-- Reading values out of a document. The state is how many more aliases may be followed. -/
abbrev Decoder := StateT Nat Option

namespace Decoder

def fail {α : Type} : Decoder α := fun _ => none

def ofOption {α : Type} (value : Option α) : Decoder α := fun left => value.map (·, left)

/-- The node itself, or what it stands for. -/
def resolve (d : Document) : Node → Decoder Node
  | .alias number => fun left =>
    if left = 0 then none else (d.targets.lookup number).map (·, left - 1)
  | node => pure node

end Decoder

end ReadoutControl.Yaml
