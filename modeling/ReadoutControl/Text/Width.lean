import ReadoutControl.Unicode.Width

set_option autoImplicit false

/-!
How many columns of a terminal a text takes. Pictographs, flags and the letters of some scripts are
drawn together with what follows them, so a text is measured from its end: `Following` is what is
known of the text after a character, and `step` adds the character in front of it.
-/

namespace ReadoutControl.Text

/-- The columns of a character alone. -/
def charWidth (c : Char) : Nat :=
  if c.toNat ≤ 0xA0 then 1
  else if Unicode.zeroWidthRanges.contains c.toNat then 0
  else if Unicode.doubleWidthRanges.contains c.toNat then 2
  else if c.toNat = 0x17D8 then 3
  else 1

/-- A mark that chooses the form of the character before it. -/
inductive Selector where
  | colour
  | plain
  | fullWidth
  deriving DecidableEq

namespace Selector

def ofChar? (c : Char) : Option Selector :=
  match c with
  | '\ufe0f' => some .colour
  | '\ufe0e' => some .plain
  | '\ufe01' => some .fullWidth
  | _ => none

/-- The columns of the chosen form, if the character has that form. -/
def width? (s : Selector) (c : Char) : Option Nat :=
  match s with
  | colour => if Unicode.colourSelectableRanges.contains c.toNat then some 2 else none
  | plain => if Unicode.plainSelectableRanges.contains c.toNat then some 1 else none
  | fullWidth => if ['‘', '’', '“', '”'].contains c then some 2 else none

end Selector

/-- The last part of a sign that is written with several letters. -/
inductive Ending where
  | lamed
  | ya
  | yaWithVowel
  | tifinagh
  | tifinaghAfterJoiner
  | lisuTone
  | orkhon
  | khmer
  deriving DecidableEq

namespace Ending

def ofCode? (code : Nat) : Option Ending :=
  if code = 0x05DC then some lamed
  else if code = 0x1A10 then some ya
  else if Unicode.tifinaghRanges.contains code then some tifinagh
  else if code = 0xA4FC ∨ code = 0xA4FD then some lisuTone
  else if code = 0x10C03 then some orkhon
  else if Unicode.khmerRanges.contains code then some khmer
  else none

end Ending

/-- What a text begins with, as far as it changes the columns of the character before it. -/
inductive Following where
  | other
  | alef
  /-- The second part of a sign, and whether a joiner stands before it. -/
  | ending (part : Ending) (joined : Bool)
  | kiratVowel (long : Bool)
  | pictograph
  | skinTone
  /-- Letters of flags, two of which make a flag. -/
  | flagLetters (several : Bool)
  | joinedPictograph
  | joinedKeycap
  | joinedFlagLetter
  /-- Flags and letters of flags before a joiner: whether their letters pair up. -/
  | joinedFlagLetters (even : Bool)
  /-- Tags that spell the name of a region, from its end: how many letters and digits. -/
  | region (letters digits : Nat)
  | selected (s : Selector) (after : Following)
  deriving DecidableEq

namespace Following

/-- What a selector may stand before without changing it. -/
def keptBefore (s : Selector) : Following → Following
  | alef => alef
  | ending part joined => ending part joined
  | joinedPictograph => if s = .colour then joinedPictograph else other
  | joinedKeycap => if s = .colour then joinedKeycap else other
  | _ => other

/-- What is left when a selector has nothing to choose. -/
def withoutSelector : Following → Following
  | selected _ alef => alef
  | selected _ (ending part joined) => ending part joined
  | selected _ _ => other
  | next => next

def isFlagLetter (code : Nat) : Bool := 0x1F1E6 ≤ code && code ≤ 0x1F1FF

def isSkinTone (code : Nat) : Bool := 0x1F3FB ≤ code && code ≤ 0x1F3FF

/-- What a code point begins when it joins nothing after it. -/
def ofCode (code : Nat) : Following :=
  if Unicode.alefRanges.contains code then alef
  else if isSkinTone code then skinTone
  else if isFlagLetter code then flagLetters false
  else if Unicode.pictographRanges.contains code then pictograph
  else if code = 0x16D67 then kiratVowel false
  else if code = 0x16D68 then kiratVowel true
  else match Ending.ofCode? code with
    | some part => ending part false
    | none => other

def joiner : Nat := 0x200D

/-- The joining of a code point to the second part of a sign. -/
def joinEnding? (part : Ending) (joined : Bool) (code : Nat) : Option (Int × Following) :=
  if code = joiner then some (0, ending part true)
  else if Unicode.betweenPartsRanges.contains code then some (0, ending part joined)
  else match part, joined with
    | .lamed, true => if code = 0x05D0 then some (0, other) else none
    | .ya, true => if code = 0x1A17 then some (0, ending .yaWithVowel true) else none
    | .yaWithVowel, _ => if code = 0x1A15 then some (0, other) else none
    | .tifinagh, joined =>
      if code = 0x2D7F then some (1, ending .tifinaghAfterJoiner true)
      else if joined && Unicode.tifinaghRanges.contains code then some (0, other)
      else none
    | .tifinaghAfterJoiner, _ =>
      if Unicode.tifinaghRanges.contains code then some (-1, other) else none
    | .lisuTone, _ => if 0xA4F8 ≤ code ∧ code ≤ 0xA4FB then some (0, other) else none
    | .orkhon, true => if code = 0x10C32 then some (0, other) else none
    | .khmer, _ => if code = 0x17D2 then some (-1, other) else none
    | _, _ => none

/-- The joining of a tag, or of the black flag, to the tags of a region. -/
def joinRegion? (letters digits code : Nat) : Option (Int × Following) :=
  if 0xE0061 ≤ code ∧ code ≤ 0xE007A then
    if digits = 0 ∧ letters < 6 then some (0, region (letters + 1) 0) else none
  else if 0xE0030 ≤ code ∧ code ≤ 0xE0039 then
    if digits < 3 ∧ (digits ≠ 0 ∨ letters ≤ 4) then some (0, region letters (digits + 1))
    else none
  else if code = 0x1F3F4 ∧ (digits = 3 ∨ (digits = 0 ∧ 3 ≤ letters)) then some (0, pictograph)
  else none

/-- The joining of a code point to a joiner and a pictograph. -/
def joinPictograph? (code : Nat) : Option (Int × Following) :=
  if code = 0x20E3 then some (0, joinedKeycap)
  else if isFlagLetter code then some (1, joinedFlagLetter)
  else if isSkinTone code then some (0, skinTone)
  else if code = 0xE007F then some (0, region 0 0)
  else if Unicode.pictographRanges.contains code then some (0, pictograph)
  else none

/-- The columns that a code point adds to a text with which it is drawn together. -/
def join? (code : Nat) : Following → Option (Int × Following)
  | other => none
  | alef =>
    if Unicode.lamRanges.contains code then some (0, other)
    else if Unicode.transparentRanges.contains code then some (0, alef)
    else none
  | ending part joined => joinEnding? part joined code
  | kiratVowel false =>
    if code = 0x16D63 ∨ code = 0x16D69 then some (0, other)
    else if code = 0x16D67 then some (0, kiratVowel true)
    else if code = 0x16D68 then some (1, kiratVowel false)
    else none
  | kiratVowel true => if code = 0x16D63 then some (0, other) else none
  | pictograph => if code = joiner then some (0, joinedPictograph) else none
  | skinTone =>
    if code = joiner then some (0, joinedPictograph)
    else if Unicode.tonedRanges.contains code then some (0, pictograph)
    else none
  | flagLetters several =>
    if isFlagLetter code then some (1, flagLetters true)
    else if several ∧ code = joiner then some (0, joinedPictograph)
    else none
  | joinedPictograph => joinPictograph? code
  | joinedKeycap => none
  | joinedFlagLetter => if isFlagLetter code then some (-1, joinedFlagLetters true) else none
  | joinedFlagLetters even =>
    if isFlagLetter code then some (if even then 3 else -1, joinedFlagLetters (!even))
    else if code = joiner then some (0, joinedPictograph)
    else none
  | region letters digits => joinRegion? letters digits code
  | selected _ _ => none

/-- The columns of a character of which a selector chooses the form. A pictograph before a joiner
takes none. -/
def select? (c : Char) : Following → Option (Int × Following)
  | selected .colour joinedPictograph => (Selector.colour.width? c).map fun _ => (0, pictograph)
  | selected .colour joinedKeycap => (Selector.colour.width? c).map fun _ => (0, pictograph)
  | selected .colour _ => (Selector.colour.width? c).map fun w => ((w : Int), pictograph)
  | selected s _ => (s.width? c).map fun w => ((w : Int), other)
  | _ => none

/-- The columns that a character adds in front of a text, and what the text then begins with. -/
def step (c : Char) (next : Following) : Int × Following :=
  match Selector.ofChar? c with
  | some s => (0, selected s (keptBefore s next.withoutSelector))
  | none =>
    match select? c next with
    | some result => result
    | none => (join? c.toNat next.withoutSelector).getD (charWidth c, ofCode c.toNat)

end Following

def width (cs : List Char) : Nat :=
  (cs.foldr (fun c (total, next) =>
    let (added, next) := Following.step c next
    (total + added, next)) ((0 : Int), Following.other)).1.toNat

end ReadoutControl.Text
