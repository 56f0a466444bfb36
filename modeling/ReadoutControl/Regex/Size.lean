import ReadoutControl.Regex.Form
import ReadoutControl.Unicode.Utf8
import Std.Data.TreeMap

set_option autoImplicit false

/-!
How much memory the automaton of an expression takes. The automaton reads bytes, forwards or
backwards; it is not built, only its states are counted. States that read the same bytes and lead
to the same states are shared as far as a table of limited size remembers them, so the count
depends on the numbers that states get.
-/

namespace ReadoutControl.Regex

/-- The states of an automaton so far, and the bytes that lists in states take. -/
structure Size where
  states : Nat
  listed : Nat
  deriving DecidableEq

namespace Size

def zero : Size := ⟨0, 0⟩

def plus (a b : Size) : Size := ⟨a.states + b.states, a.listed + b.listed⟩

def add (s : Size) (states : Nat) : Size := { s with states := s.states + states }

/-- A list of ranges of bytes, each with the state it leads to. -/
def addRanges (s : Size) (count : Nat) : Size := { s with listed := s.listed + 8 * count }

/-- A list of states. -/
def addLinks (s : Size) (count : Nat) : Size := { s with listed := s.listed + 4 * count }

def bytes (s : Size) : Nat := 32 * s.states + s.listed

/-- Automata that take more than this many bytes are refused. -/
def limit : Nat := 10 * 1024 * 1024

def exceeds (s : Size) : Bool := limit < s.bytes

end Size

/-- A part of an automaton: the size with it, and whether its last state has a list of the states
it leads to. -/
structure Part where
  size : Size
  branches : Bool

namespace Part

/-- The size when the part leads to a further state. -/
def linked (p : Part) : Size := if p.branches then p.size.addLinks 1 else p.size

/-- A part so many times in a row, but no further than to the limit. -/
def times (grow : Size → Part) : Nat → Part → Part
  | 0, p => p
  | n + 1, p => if p.size.exceeds then p else times grow n (grow p.linked)

/-- A part up to so many times more, each of which may be the last. -/
def upTo (grow : Size → Part) : Nat → Part → Part
  | 0, p => p
  | n + 1, p =>
    if p.size.exceeds then p
    else
      let split := (p.linked.add 1).addLinks 2
      upTo grow n (grow split)

end Part

/-- One step of a hash of 64 bits. -/
def hashStep (h : UInt64) (n : Nat) : UInt64 := (h ^^^ n.toUInt64) * 1099511628211

def hashStart : UInt64 := 14695981039346656037

/-- The ranges of bytes that a state reads, each with the state it leads to. -/
abbrev Node := List ((Nat × Nat) × Nat)

/-- The states of one set that may be shared. A state takes the place of another that has the same
number in the table. -/
structure Shared where
  size : Size
  table : Std.TreeMap Nat (Node × Nat)

namespace Shared

def capacity : Nat := 10000

def place (node : Node) : Nat :=
  (node.foldl (fun h ((low, high), next) => hashStep (hashStep (hashStep h low) high) next)
    hashStart).toNat % capacity

/-- The state of a node, which is added unless the table has it. -/
def state (node : Node) (s : Shared) : Nat × Shared :=
  let new : Nat × Shared :=
    (s.size.states, ⟨(s.size.add 1).addRanges node.length,
      s.table.insert (place node) (node, s.size.states)⟩)
  match s.table[place node]? with
  | some (known, id) => if known = node then (id, s) else new
  | none => new

end Shared

/-- Sequences grouped by what they begin with, in order. -/
def byFirst : List (List (Nat × Nat)) → List ((Nat × Nat) × List (List (Nat × Nat)))
  | [] => []
  | [] :: rest => byFirst rest
  | (range :: after) :: rest =>
    match byFirst rest with
    | (next, afters) :: groups =>
      if range = next then (range, after :: afters) :: groups
      else (range, [after]) :: (next, afters) :: groups
    | [] => [(range, [after])]

/-- The state that reads given sequences of at most so many bytes and leads to `target`. -/
def sequencesState (target : Nat) : Nat → List (List (Nat × Nat)) → Shared → Nat × Shared
  | 0, _, s => (target, s)
  | length + 1, sequences, s =>
    if sequences.all (·.isEmpty) then (target, s)
    else
      let (node, s) := (byFirst sequences).foldl (fun (node, s) (range, afters) =>
        let (next, s) := sequencesState target length afters s
        ((range, next) :: node, s)) (([] : Node), s)
      s.state node.reverse

def setSequences (set : CharSet) : List (List (Nat × Nat)) :=
  set.toList.flatMap fun (low, high) => Unicode.Utf8.sequences low high

/-- A set that is read forwards: the state after it comes first, states that read the same are
shared. -/
def growForward (set : CharSet) (s : Size) : Size :=
  (sequencesState s.states 4 (setSequences set) ⟨s.add 1, ∅⟩).2.size

/-- The states that read one range of bytes each, by the state they lead to. -/
structure Endings where
  size : Size
  table : Std.TreeMap Nat ((Nat × Nat × Nat) × Nat)

namespace Endings

def capacity : Nat := 1000

def place (next low high : Nat) : Nat :=
  (hashStep (hashStep (hashStep hashStart next) low) high).toNat % capacity

/-- The state that reads a range and leads to `next`. -/
def state (next : Nat) (range : Nat × Nat) (e : Endings) : Nat × Endings :=
  let key := (next, range.1, range.2)
  let new : Nat × Endings :=
    (e.size.states, ⟨e.size.add 1,
      e.table.insert (place next range.1 range.2) (key, e.size.states)⟩)
  match e.table[place next range.1 range.2]? with
  | some (known, id) => if known = key then (id, e) else new
  | none => new

end Endings

/-- A set that is read backwards: the last bytes of all sequences come first, the first bytes lead
to the state after them, and states are shared. -/
def growBackward (set : CharSet) (s : Size) : Size :=
  let after := s.states + 1
  ((setSequences set).foldl (fun e sequence =>
    let (_, e) := sequence.foldl (fun (next, e) range => e.state next range) (after, e)
    { e with size := e.size.addLinks 1 }) (⟨s.add 2, ∅⟩ : Endings)).size

/-- A set of characters. ASCII needs no more than one list of ranges. -/
def growSet (backwards : Bool) (set : CharSet) (s : Size) : Size :=
  if set.isAscii then (s.add 2).addRanges set.size
  else if backwards then growBackward set s
  else growForward set s

/-- Words cut where an empty one is; empty words at the start count once. -/
def chunks : List (List Nat) → List (List (List Nat))
  | [] => [[]]
  | [] :: rest =>
    match chunks rest with
    | [] :: more => if more.isEmpty then [[], []] else [] :: more
    | found => [] :: found
  | word :: rest =>
    match wordsThen rest with
    | (words, more) => (word :: words) :: more
where
  /-- The words before an empty one, and the chunks after it. -/
  wordsThen : List (List Nat) → List (List Nat) × List (List (List Nat))
    | [] => ([], [])
    | [] :: rest =>
      let (words, more) := wordsThen rest
      ([], words :: more)
    | word :: rest =>
      let (words, more) := wordsThen rest
      (word :: words, more)

/-- What follows each first byte in a list of words that are not empty. -/
def followers (words : List (List Nat)) : List (List (List Nat)) :=
  let firsts := (words.filterMap (·.head?)).eraseDups
  firsts.map fun byte => words.filterMap fun
    | first :: rest => if first = byte then some rest else none
    | [] => none

/-- The states of a tree of words below one of its nodes; a node where nothing goes on is none. The
fuel is the length of the longest word. -/
def treeSize : Nat → List (List Nat) → Size
  | 0, _ => .zero
  | length + 1, words =>
    let parts := chunks words
    if parts.all (·.isEmpty) then .zero
    else
      let lists := (parts.filter (!·.isEmpty)).map followers
      let own := lists.foldl (fun (s : Size) list =>
        if list.length = 1 then s.add 1 else (s.add 1).addRanges list.length)
        ((Size.zero.add 1).addLinks (lists.length + (parts.length - 1)))
      lists.foldl (fun s list =>
        list.foldl (fun s afters => s.plus (treeSize length afters)) s) own

/-- The bytes of branches that are all literals. -/
def literals? (branches : List Form) : Option (List (List Nat)) :=
  branches.mapM fun
    | .literal cs => some (cs.flatMap fun c => Unicode.Utf8.encode c.toNat)
    | _ => none

def growLiterals (backwards : Bool) (words : List (List Nat)) (s : Size) : Size :=
  let words := if backwards then words.map List.reverse else words
  let longest := words.foldl (fun n word => max n word.length) 0
  (s.add 1).plus (treeSize (longest + 1) words)

/-- A repetition. One that may go on without a bound leads back to itself. -/
def growRepeated (grow : Size → Part) (consumes : Bool) (least : Nat) (most : Option Nat)
    (s : Size) : Part :=
  match least, most with
  | 0, some 1 => ⟨(grow ((s.add 1).addLinks 2)).linked.add 1, false⟩
  | 0, none =>
    if consumes then ⟨(grow ((s.add 1).addLinks 1)).linked, true⟩
    else ⟨((grow s).linked.add 3).addLinks 4, false⟩
  | least, none =>
    let before := Part.times grow (least - 1) ⟨s, false⟩
    ⟨((grow before.linked).linked.add 1).addLinks 1, true⟩
  | least, some most =>
    let before := if least = 0 then ⟨s.add 1, false⟩ else Part.times grow least ⟨s, false⟩
    if least = most then before
    else
      let all := Part.upTo grow (most - least) { before with size := before.size.add 1 }
      ⟨all.linked, false⟩

mutual

/-- The automaton with a further form at its end. -/
def Form.grow (backwards : Bool) : Form → Size → Part
  | .empty, s => ⟨s.add 1, false⟩
  | .literal cs, s => ⟨s.add (Unicode.Utf8.byteCount cs), false⟩
  | .chars set, s => ⟨growSet backwards set s, false⟩
  | .look _, s => ⟨s.add 1, false⟩
  | .rep f least most _, s =>
    growRepeated (fun s => f.grow backwards s) (f.shortest?.any (0 < ·)) least most s
  | .memory f, s =>
    if backwards then f.grow backwards s
    else ⟨(f.grow backwards (s.add 1)).linked.add 1, false⟩
  | .concat items, s => growItems backwards items ⟨s, false⟩
  | .choice branches, s =>
    match literals? branches with
    | some words => ⟨growLiterals backwards words s, false⟩
    | none => ⟨growBranches backwards branches 0 s, false⟩

/-- Items in a row, the last of them first if they are read backwards. -/
def growItems (backwards : Bool) : List Form → Part → Part
  | [], p => p
  | f :: rest, p =>
    if backwards then f.grow backwards (growItems backwards rest p).linked
    else growItems backwards rest (f.grow backwards p.linked)

/-- Branches of a choice. The states where it begins and ends come after the first two. -/
def growBranches (backwards : Bool) : List Form → Nat → Size → Size
  | [], _, s => s
  | f :: rest, before, s =>
    let grown := (f.grow backwards s).linked.addLinks 1
    growBranches backwards rest (before + 1) (if before = 1 then grown.add 2 else grown)

end

/-- The automaton that reads forwards, and notes where a match begins and ends. Unless a match must
begin where the text begins, a loop before it skips what does not match. -/
def Form.sizeForward (f : Form) : Size :=
  let before := if f.beginsAtStart then Size.zero.add 1
    else ((Size.zero.add 3).addRanges 1).addLinks 2
  (f.grow false (before.add 1)).linked.add 2

def Form.sizeBackward (f : Form) : Size :=
  let before := if f.endsAtEnd then Size.zero.add 1
    else ((Size.zero.add 3).addRanges 1).addLinks 2
  (f.grow true before).linked.add 1

/-- Whether the automata of an expression exceed the limit. -/
def isTooLarge (r : Regex) : Bool :=
  let form := Form.ofRegex r
  form.sizeForward.exceeds || form.sizeBackward.exceeds

end ReadoutControl.Regex
