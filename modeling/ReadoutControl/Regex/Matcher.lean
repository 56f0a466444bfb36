import ReadoutControl.Regex.Basic

set_option autoImplicit false

/-!
Matching by sets of positions: `ends` takes the positions where a match may begin to all those
where it may end, so no input makes it try alternatives one after the other. Sets of positions are
increasing lists.
-/

namespace ReadoutControl.Regex

/-- The union of two sets of positions. -/
def merge : List Nat → List Nat → List Nat
  | [], bs => bs
  | as, [] => as
  | a :: as, b :: bs =>
    if a < b then a :: merge as (b :: bs)
    else if b < a then b :: merge (a :: as) bs
    else a :: merge as bs

/-- The members of the first set that the second lacks. -/
def without : List Nat → List Nat → List Nat
  | [], _ => []
  | as, [] => as
  | a :: as, b :: bs =>
    if a < b then a :: without as (b :: bs)
    else if b < a then without (a :: as) bs
    else without as bs

/-- Takes `n` steps, stopping early where further steps change nothing. -/
def iterate (step : List Nat → List Nat) : Nat → List Nat → List Nat
  | 0, positions => positions
  | n + 1, positions =>
    let next := step positions
    if next == positions then positions else iterate step n next

/-- All that up to `n` steps reach. Only what the last step added is looked at again. -/
def reach (step : List Nat → List Nat) : Nat → List Nat → List Nat → List Nat
  | 0, seen, _ => seen
  | n + 1, seen, frontier =>
    match without (step frontier) seen with
    | [] => seen
    | added => reach step n (merge seen added) added

def endsOf (text : Array Char) : Regex → List Nat → List Nat
  | .empty, starts => starts
  | .chars set, starts => starts.filterMap fun i =>
      match text[i]? with
      | some c => if set.has c then some (i + 1) else none
      | none => none
  | .look l, starts => starts.filter (l.holds text)
  | .seq a b, starts => endsOf text b (endsOf text a starts)
  | .alt a b, starts => merge (endsOf text a starts) (endsOf text b starts)
  | .rep r least most _, starts =>
    let begun := iterate (endsOf text r) least starts
    let steps := match most with
      | none => text.size + 1
      | some most => min (most - least) (text.size + 1)
    reach (endsOf text r) steps begun begun
  | .group r _, starts => endsOf text r starts

/-- Whether some part of the text matches. -/
def isMatch (r : Regex) (text : String) : Bool :=
  let chars := text.toList.toArray
  !(endsOf chars r (List.range (chars.size + 1))).isEmpty

end ReadoutControl.Regex
