import ReadoutControl.Regex.Basic

set_option autoImplicit false

/-!
Simplified expressions. Neighbouring characters are one literal, a choice between characters is a
set of them, and what all branches of a choice begin with stands before it once. Every expression
has the form `ofRegex` gives it, which matches the same.
-/

namespace ReadoutControl.Regex

inductive Form where
  | empty
  | literal (chars : List Char)
  | chars (set : CharSet)
  | look (l : Look)
  | rep (f : Form) (least : Nat) (most : Option Nat) (fewFirst : Bool)
  /-- An expression whose match is remembered. -/
  | memory (f : Form)
  | concat (items : List Form)
  | choice (branches : List Form)
  deriving Inhabited

namespace Form

mutual

/-- How many parts a form has. -/
def count : Form → Nat
  | .rep f _ _ _ => f.count + 1
  | .memory f => f.count + 1
  | .concat items => counts items + 1
  | .choice branches => counts branches + 1
  | _ => 1

def counts : List Form → Nat
  | [] => 0
  | f :: rest => f.count + counts rest

end

mutual

/-- Whether two forms are the same. What is remembered apart is never the same. -/
def same : Form → Form → Bool
  | .empty, .empty => true
  | .literal a, .literal b => a == b
  | .chars s, .chars t => s == t
  | .look l, .look m => l == m
  | .rep f least most few, .rep g least' most' few' =>
    least == least' && most == most' && few == few' && same f g
  | .concat fs, .concat gs => sameItems fs gs
  | .choice fs, .choice gs => sameItems fs gs
  | _, _ => false

def sameItems : List Form → List Form → Bool
  | [], [] => true
  | f :: fs, g :: gs => same f g && sameItems fs gs
  | _, _ => false

end

mutual

/-- Whether only the empty text can match. -/
def isEmptyOnly : Form → Bool
  | .empty => true
  | .look _ => true
  | .rep f _ most _ => most.isSome && isEmptyOnly f
  | .memory f => isEmptyOnly f
  | .concat items => areEmptyOnly items
  | .choice branches => areEmptyOnly branches
  | _ => false

def areEmptyOnly : List Form → Bool
  | [] => true
  | f :: rest => isEmptyOnly f && areEmptyOnly rest

end

mutual

/-- A bound from below for the length of matches, none if an empty set occurs. -/
def shortest? : Form → Option Nat
  | .empty => some 0
  | .literal cs => some cs.length
  | .chars set => if set.isEmpty then none else some 1
  | .look _ => some 0
  | .rep f least _ _ => (shortest? f).map (· * least)
  | .memory f => shortest? f
  | .concat items => sumShortest? items
  | .choice branches => leastShortest? branches

def sumShortest? : List Form → Option Nat
  | [] => some 0
  | f :: rest => (shortest? f).bind fun n => (sumShortest? rest).map (n + ·)

def leastShortest? : List Form → Option Nat
  | [] => none
  | [f] => shortest? f
  | f :: rest => (shortest? f).bind fun n => (leastShortest? rest).map (min n)

end

mutual

/-- Whether a match must begin where the text begins. -/
def beginsAtStart : Form → Bool
  | .look l => l == .textStart
  | .rep f least _ _ => 0 < least && beginsAtStart f
  | .memory f => beginsAtStart f
  | .concat items => firstBeginsAtStart items
  | .choice branches => allBeginAtStart branches
  | _ => false

/-- The same of items in a row, up to the first that can match more than the empty text. -/
def firstBeginsAtStart : List Form → Bool
  | [] => false
  | f :: rest => beginsAtStart f || (isEmptyOnly f && firstBeginsAtStart rest)

def allBeginAtStart : List Form → Bool
  | [] => true
  | f :: rest => beginsAtStart f && allBeginAtStart rest

end

mutual

/-- Whether a match must end where the text ends. -/
def endsAtEnd : Form → Bool
  | .look l => l == .textEnd
  | .rep f least _ _ => 0 < least && endsAtEnd f
  | .memory f => endsAtEnd f
  | .concat items => lastEndsAtEnd items
  | .choice branches => allEndAtEnd branches
  | _ => false

def lastEndsAtEnd : List Form → Bool
  | [] => false
  | f :: rest => lastEndsAtEnd rest || (areEmptyOnly rest && endsAtEnd f)

def allEndAtEnd : List Form → Bool
  | [] => true
  | f :: rest => endsAtEnd f && allEndAtEnd rest

end

/-- A set of one character is that character. -/
def ofSet (set : CharSet) : Form :=
  match set.only? with
  | some c => .literal [c]
  | none => .chars set

def items : Form → List Form
  | .empty => []
  | .concat items => items
  | f => [f]

def ofItems : List Form → Form
  | [] => .empty
  | [f] => f
  | items => .concat items

/-- Items in a row, where literals that meet become one. -/
def appendItems : List Form → List Form → List Form
  | [], after => after
  | [.literal cs], .literal ds :: after => .literal (cs ++ ds) :: after
  | f :: rest, after => f :: appendItems rest after

/-- Two forms one after the other. -/
def append (f g : Form) : Form := ofItems (appendItems f.items g.items)

/-- A repetition. What matches only the empty text is not repeated. -/
def repeated (f : Form) (least : Nat) (most : Option Nat) (fewFirst : Bool) : Form :=
  let once := f.isEmptyOnly
  let least := if once then min least 1 else least
  let most := if once then some (min (most.getD 1) 1) else most
  if least = 0 ∧ most = some 0 then .empty
  else if least = 1 ∧ most = some 1 then f
  else .rep f least most fewFirst

/-- The characters of branches that are single characters. -/
def singles? : List Form → Option CharSet
  | [] => some .empty
  | .literal [c] :: rest => (singles? rest).map (CharSet.single c).union
  | _ => none

/-- The union of branches that are sets. -/
def sets? : List Form → Option CharSet
  | [] => some .empty
  | .chars set :: rest => (sets? rest).map set.union
  | _ => none

/-- The items of branches that all have several. -/
def rows? (branches : List Form) : Option (List (List Form)) :=
  branches.mapM fun
    | .concat items => some items
    | _ => none

/-- How many items two rows begin with in common. -/
def commonLength : List Form → List Form → Nat
  | f :: fs, g :: gs => if same f g then commonLength fs gs + 1 else 0
  | _, _ => 0

/-- The items that several rows begin with, and what is left of the rows. -/
def commonStart? (rows : List (List Form)) : Option (List Form × List (List Form)) :=
  match rows with
  | first :: others =>
    let n := others.foldl (fun n row => min n (commonLength first row)) first.length
    if n = 0 then none else some (first.take n, rows.map (·.drop n))
  | [] => none

/-- A choice between branches. The fuel is the number of their parts, of which what the branches
have in common takes some. -/
def choiceWith : Nat → List Form → Form
  | 0, branches => .choice branches
  | fuel + 1, branches =>
    let flat := branches.flatMap fun
      | .choice inner => inner
      | f => [f]
    match flat with
    | [] => .chars .empty
    | [f] => f
    | flat =>
      match singles? flat with
      | some set => ofSet set
      | none =>
        match sets? flat with
        | some set => ofSet set
        | none =>
          match (rows? flat).bind commonStart? with
          | some (start, rest) =>
            ofItems (appendItems start (choiceWith fuel (rest.map ofItems)).items)
          | none => .choice flat

def oneOf (branches : List Form) : Form :=
  match branches with
  | [f] => f
  | branches => choiceWith (counts branches + 1) branches

/-- The branches of an expression; what is no choice is the only one. -/
def branchesOf : Regex → List Form
  | .empty => [.empty]
  | .chars set => [ofSet set]
  | .look l => [.look l]
  | .seq a b => [append (oneOf (branchesOf a)) (oneOf (branchesOf b))]
  | .alt a b => branchesOf a ++ branchesOf b
  | .rep r least most few => [repeated (oneOf (branchesOf r)) least most few]
  | .group r remembers =>
    let f := oneOf (branchesOf r)
    [if remembers then .memory f else f]

def ofRegex (r : Regex) : Form := oneOf (branchesOf r)

end Form

end ReadoutControl.Regex
