import ReadoutControl.Regex.CharSet
import ReadoutControl.Unicode.Category
import ReadoutControl.Unicode.Property

set_option autoImplicit false

/-!
Regular expressions with assertions about the place between two characters. `Matches` says which
parts of a text an expression matches; a part is given by the positions of its ends.
-/

namespace ReadoutControl

namespace Regex

/-- Letters, marks, digits and connectors of any script. -/
def wordChars : CharSet :=
  let ofProperty name := Unicode.propertyRanges.filterMap fun (names, ranges) =>
    if names.contains name then some ranges else none
  let ofCategories names := Unicode.categoryRanges.filterMap fun (name, ranges) =>
    if names.contains name then some ranges else none
  .unions (CharSet.ofRanges [('0', '9'), ('A', 'Z'), ('_', '_'), ('a', 'z')] ::
    (ofProperty "alphabetic" ++ ofProperty "joincontrol" ++
      ofCategories ["Mn", "Mc", "Me", "Nd", "Pc"]))

def asciiWordChars : CharSet := CharSet.ofRanges [('0', '9'), ('A', 'Z'), ('_', '_'), ('a', 'z')]

/-- What is said of a place in a text. -/
inductive Look where
  | textStart
  | textEnd
  | lineStart
  | lineEnd
  /-- As `lineStart`, where a carriage return ends a line too. -/
  | lineStartCR
  | lineEndCR
  /-- Between a word character and another, whatever word characters are. -/
  | boundary (word : CharSet)
  | notBoundary (word : CharSet)
  | wordStart (word : CharSet)
  | wordEnd (word : CharSet)
  | wordStartHalf (word : CharSet)
  | wordEndHalf (word : CharSet)
  deriving DecidableEq

namespace Look

/-- The character before a position. -/
def before? (text : Array Char) (i : Nat) : Option Char :=
  if i = 0 then none else text[i - 1]?

def isWord (word : CharSet) : Option Char → Bool
  | some c => word.has c
  | none => false

def holds (text : Array Char) (i : Nat) : Look → Bool
  | textStart => i == 0
  | textEnd => i == text.size
  | lineStart => i == 0 || before? text i == some '\n'
  | lineEnd => i == text.size || text[i]? == some '\n'
  | lineStartCR => i == 0 || before? text i == some '\n' ||
      (before? text i == some '\r' && text[i]? != some '\n')
  | lineEndCR => i == text.size || text[i]? == some '\r' ||
      (text[i]? == some '\n' && before? text i != some '\r')
  | boundary word => isWord word (before? text i) != isWord word text[i]?
  | notBoundary word => isWord word (before? text i) == isWord word text[i]?
  | wordStart word => !isWord word (before? text i) && isWord word text[i]?
  | wordEnd word => isWord word (before? text i) && !isWord word text[i]?
  | wordStartHalf word => !isWord word (before? text i)
  | wordEndHalf word => !isWord word text[i]?

end Look

end Regex

inductive Regex where
  | empty
  | chars (set : Regex.CharSet)
  | look (l : Regex.Look)
  | seq (a b : Regex)
  | alt (a b : Regex)
  /-- From `least` to `most` times in a row, without a bound if there is no `most`. Whether few
  or many are tried first changes only which of several matches is found. -/
  | rep (r : Regex) (least : Nat) (most : Option Nat) (fewFirst : Bool)
  /-- An expression in parentheses, which may remember what it matches. -/
  | group (r : Regex) (remembers : Bool)
  deriving DecidableEq

namespace Regex

/-- `Matches text r i j`: the part of the text from position `i` to `j` matches. -/
inductive Matches (text : Array Char) : Regex → Nat → Nat → Prop
  | empty {i} : i ≤ text.size → Matches text .empty i i
  | chars {set c i} : text[i]? = some c → set.has c = true →
      Matches text (.chars set) i (i + 1)
  | look {l i} : i ≤ text.size → l.holds text i = true → Matches text (.look l) i i
  | seq {a b i j k} : Matches text a i j → Matches text b j k → Matches text (.seq a b) i k
  | altLeft {a b i j} : Matches text a i j → Matches text (.alt a b) i j
  | altRight {a b i j} : Matches text b i j → Matches text (.alt a b) i j
  | repStop {r most few i} : i ≤ text.size → Matches text (.rep r 0 most few) i i
  | repMore {r least most few i j k} : most ≠ some 0 → Matches text r i j →
      Matches text (.rep r (least - 1) (most.map (· - 1)) few) j k →
      Matches text (.rep r least most few) i k
  | group {r remembers i j} : Matches text r i j → Matches text (.group r remembers) i j

def concat : List Regex → Regex
  | [] => .empty
  | [r] => r
  | r :: rest => .seq r (concat rest)

/-- One of several expressions; of none, nothing matches. -/
def oneOf : List Regex → Regex
  | [] => .chars .empty
  | [r] => r
  | r :: rest => .alt r (oneOf rest)

end Regex

end ReadoutControl
