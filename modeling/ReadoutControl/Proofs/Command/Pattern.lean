import ReadoutControl.Command.Address
import ReadoutControl.Proofs.Command.Reading
import ReadoutControl.Proofs.Regex.Plain

set_option autoImplicit false

/-!
What patterns address. A pattern that is an expression by itself matches the names that the
expression matches from end to end, and the name of a module may be read as a pattern without a
change of what it addresses. But a pattern is compiled between its anchors only, so some are taken
that are no expressions, and an expression is refused that ends in a comment.
-/

namespace ReadoutControl

open Regex

namespace NamePattern

theorem ofText?_eq_some {expr : String} {p : NamePattern} (found : ofText? expr = some p) :
    p.expr = expr ∧ ofPattern? expr = some p.regex := by
  unfold ofText? at found
  split at found
  · next regex compiled =>
    obtain rfl := Option.some.inj found
    exact ⟨rfl, compiled⟩
  · exact nomatch found

theorem isSome_ofText? (expr : String) : (ofText? expr).isSome = (ofPattern? expr).isSome := by
  unfold ofText?
  split
  · next regex compiled => exact (congrArg Option.isSome compiled).symm
  · next refused => exact (congrArg Option.isSome refused).symm

end NamePattern

namespace Address

variable {expr : String} {a : Address} {r : Regex}

theorem ofPattern?_of_ne {expr : String} (something : expr ≠ "") :
    ofPattern? expr = if withinLimits (anchored expr.toList) then meaning? (anchored expr.toList)
      else none := by
  rw [ofPattern?, if_neg (by simpa using something), ofText?_eq]

theorem isSome_pattern? (expr : String) : (pattern? expr).isSome = (ofPattern? expr).isSome := by
  rw [pattern?, Option.isSome_map, NamePattern.isSome_ofText?]

/-- An accepted pattern is matched by what its anchored form means. -/
theorem matchesName_of_pattern? (accepted : pattern? expr = some a) (something : expr ≠ "") :
    ∃ s, meaning? (anchored expr.toList) = some s ∧
      ∀ name, a.matchesName name = s.isMatch name := by
  obtain ⟨p, found, rfl⟩ := Option.map_eq_some_iff.mp accepted
  obtain ⟨_, compiled⟩ := NamePattern.ofText?_eq_some found
  rw [ofPattern?_of_ne something] at compiled
  exact ⟨p.regex, (Option.ite_none_right_eq_some.mp compiled).2, fun _ => rfl⟩

theorem matchesName_of_empty (accepted : pattern? "" = some a) (name : String) :
    a.matchesName name = true := by
  obtain ⟨p, found, rfl⟩ := Option.map_eq_some_iff.mp accepted
  obtain ⟨_, compiled⟩ := NamePattern.ofText?_eq_some found
  have empty : p.regex = .empty := (Option.some.inj compiled).symm
  have proper : Regex.empty.Proper := trivial
  have matched := (isMatch_iff proper name).mpr ⟨0, 0, .empty (Nat.zero_le _)⟩
  rw [matchesName, NamePattern.matchesName, empty]
  exact matched

/-- What an expression addresses that is accepted. -/
theorem matchesName_iff (own : meaning? expr.toList = some r) (accepted : pattern? expr = some a)
    (something : expr ≠ "") (name : String) :
    a.matchesName name = true ↔ Matches name.toList.toArray r 0 name.toList.length := by
  obtain ⟨s, means, same⟩ := matchesName_of_pattern? accepted something
  obtain rfl := eq_whole_of_meaning?_anchored own means
  rw [same, isMatch_whole_iff (proper_of_meaning? own)]

/-- An accepted pattern that is an expression by itself matches a name if the expression has a match
that begins where the name begins and ends where it ends. Whatever flags the expression sets, the
anchors around it are the ends of the name, and all of its alternatives stand between them. The empty
pattern matches every name. -/
theorem pattern?_matches (own : meaning? expr.toList = some r) (accepted : pattern? expr = some a) :
    (expr ≠ "" → ∃ p, a = .pattern p ∧
      p.regex = .seq (.look .textStart) (.seq (.group r false) (.look .textEnd))) ∧
    ∀ name, a.matchesName name = true ↔
      expr = "" ∨ Matches name.toList.toArray r 0 name.toList.length := by
  constructor
  · intro something
    obtain ⟨p, found, rfl⟩ := Option.map_eq_some_iff.mp accepted
    obtain ⟨_, compiled⟩ := NamePattern.ofText?_eq_some found
    rw [ofPattern?_of_ne something] at compiled
    exact ⟨p, rfl, eq_whole_of_meaning?_anchored own (Option.ite_none_right_eq_some.mp compiled).2⟩
  · intro name
    by_cases something : expr = ""
    · subst something
      exact iff_of_true (matchesName_of_empty accepted name) (.inl rfl)
    · rw [matchesName_iff own accepted something name, or_iff_right something]

/-- The flag for lines leaves the anchors alone, and both alternatives are anchored. -/
theorem pattern?_matches_lines :
    ∃ r a, meaning? "(?m)a$|^b".toList = some r ∧ pattern? "(?m)a$|^b" = some a ∧
      (a.matchesName "b" = true ↔
        "(?m)a$|^b" = "" ∨ Matches "b".toList.toArray r 0 "b".toList.length) ∧
      a.matchesName "b" = true := by
  have own : meaning? "(?m)a$|^b".toList = some
      (.alt (.seq .empty (.seq (.chars (CharSet.single 'a')) (.look .lineEnd)))
        (.seq (.look .lineStart) (.chars (CharSet.single 'b')))) := by decide +kernel
  have taken : (pattern? "(?m)a$|^b").isSome = true := by decide +kernel
  obtain ⟨a, accepted⟩ := Option.isSome_iff_exists.mp taken
  have matches_b := (pattern?_matches own accepted).2 "b"
  exact ⟨_, a, own, accepted, matches_b, matches_b.mpr (.inr (.altRight (.seq
    (.look (Nat.zero_le _) rfl) (.chars rfl (CharSet.has_single.mpr rfl)))))⟩

/-- If no parenthesis of a text closes the group between the anchors, the text is accepted as a
pattern when it is an expression that does not end in an open comment, and what it matches is matched
as a whole. Limits of depth and memory are left out. -/
theorem pattern?_isSome_iff (inside : ¬ Ast.ClosesOutside expr.toList)
    (limits : withinLimits (anchored expr.toList) = true) :
    ((pattern? expr).isSome = true ↔
      WellFormed expr.toList ∧ ¬ WellFormed (expr.toList ++ [')'])) ∧
    ∀ a, pattern? expr = some a → expr ≠ "" → ∀ name, a.matchesName name = true →
      ∃ r, meaning? expr.toList = some r ∧
        Matches name.toList.toArray r 0 name.toList.length := by
  have means := meaning?_anchored inside
  constructor
  · by_cases something : expr = ""
    · subst something
      exact iff_of_true rfl (by decide +kernel)
    · rw [isSome_pattern?, ofPattern?_of_ne something, limits, if_pos rfl, means]
      constructor
      · intro accepted
        obtain ⟨s, accepted⟩ := Option.isSome_iff_exists.mp accepted
        obtain ⟨left, accepted⟩ := Option.ite_none_left_eq_some.mp accepted
        obtain ⟨r, own, _⟩ := Option.map_eq_some_iff.mp accepted
        exact ⟨⟨r, own⟩, fun taken => left ((wellFormed_closing_iff ⟨r, own⟩).mp taken)⟩
      · rintro ⟨⟨r, own⟩, left⟩
        rw [if_neg fun taken => left ((wellFormed_closing_iff ⟨r, own⟩).mpr taken), own]
        rfl
  · intro a accepted something name matched
    obtain ⟨s, found, same⟩ := matchesName_of_pattern? accepted something
    rw [means] at found
    obtain ⟨_, found⟩ := Option.ite_none_left_eq_some.mp found
    obtain ⟨r, own, _⟩ := Option.map_eq_some_iff.mp found
    exact ⟨r, own, (matchesName_iff own accepted something name).mp matched⟩

/-- An expression with a group and alternatives is accepted. -/
theorem pattern?_isSome_group :
    ¬ Ast.ClosesOutside "(rb|tp)_.+".toList ∧ withinLimits (anchored "(rb|tp)_.+".toList) = true ∧
      (pattern? "(rb|tp)_.+").isSome = true := by
  have whole : (Ast.read? "(rb|tp)_.+".toList).isSome = true := by decide +kernel
  have inside : ¬ Ast.ClosesOutside "(rb|tp)_.+".toList := by
    intro outside
    rw [Ast.read?_of_closesOutside outside] at whole
    exact nomatch whole
  have limits : withinLimits (anchored "(rb|tp)_.+".toList) = true := by decide +kernel
  exact ⟨inside, limits, (pattern?_isSome_iff inside limits).1.mpr (by decide +kernel)⟩

/-- Text that is no expression is accepted if its anchored form is one, and then matches less than a
whole name; an expression that ends in a comment is refused. -/
theorem pattern?_not_iff_wellFormed :
    (¬ WellFormed "a)|(?:b".toList ∧
      ∃ a, pattern? "a)|(?:b" = some a ∧ a.matchesName "axyz" = true) ∧
    WellFormed "(?x)a#b".toList ∧ pattern? "(?x)a#b" = none := by
  have means : meaning? (anchored "a)|(?:b".toList) = some
      (.alt (.seq (.look .textStart) (.group (.chars (CharSet.single 'a')) false))
        (.seq (.group (.chars (CharSet.single 'b')) false) (.look .textEnd))) := by decide +kernel
  have taken : (pattern? "a)|(?:b").isSome = true := by decide +kernel
  obtain ⟨a, accepted⟩ := Option.isSome_iff_exists.mp taken
  obtain ⟨s, found, same⟩ := matchesName_of_pattern? accepted (by decide)
  obtain rfl := Option.some.inj (means.symm.trans found)
  have matched := (isMatch_iff (proper_of_meaning? means) "axyz").mpr ⟨0, 1, .altLeft (.seq
    (.look (Nat.zero_le _) rfl) (.group (.chars rfl (CharSet.has_single.mpr rfl))))⟩
  refine ⟨⟨by decide +kernel, a, accepted, (same "axyz").trans matched⟩, by decide +kernel, ?_⟩
  rw [← Option.not_isSome_iff_eq_none]
  decide +kernel

theorem isPlain_of_metaChars {cs : List Char} (plain : ∀ c ∈ cs, c ∉ metaChars) : IsPlain cs := by
  have included : ∀ c ∈ operators, c ∈ metaChars := by simp [operators, metaChars]
  exact fun c member special => plain c member (included c special)

/-- Every text means the same address, or one that matches the same names, whether or not it is taken
for a name because it has no special characters. Limits of depth and memory are left out. -/
theorem ofText?_agrees {text : String} (limits : withinLimits (anchored text.toList) = true) :
    ((ofText? text).isSome = true ↔ (pattern? text).isSome = true) ∧
    ∀ a b, ofText? text = some a → pattern? text = some b →
      ∀ name, a.matchesName name = b.matchesName name := by
  unfold ofText?
  by_cases special : looksLikePattern text = true
  · rw [if_pos special]
    refine ⟨Iff.rfl, fun a b one other name => ?_⟩
    rw [Option.some.inj (one.symm.trans other)]
  · rw [if_neg special]
    obtain ⟨something, letters⟩ := looksLikePattern_eq_false_iff.mp (Bool.eq_false_iff.mpr special)
    have means := meaning?_anchored_plain (isPlain_of_metaChars letters)
    constructor
    · rw [isSome_pattern?, ofPattern?_of_ne something, limits, if_pos rfl, means]
      exact Iff.rfl
    · intro a b one other name
      obtain rfl := Option.some.inj one
      obtain ⟨s, found, same⟩ := matchesName_of_pattern? other something
      obtain rfl := Option.some.inj (means.symm.trans found)
      rw [same, Bool.eq_iff_iff, isMatch_whole_ofChars_iff, String.toList_inj, matchesName,
        beq_iff_eq, eq_comm]

/-- A name with blanks, a number sign and a letter beyond ASCII is matched by the pattern it makes. -/
theorem ofText?_agrees_name :
    withinLimits (anchored "dlh # é-1".toList) = true ∧
      ∃ b, pattern? "dlh # é-1" = some b ∧ b.matchesName "dlh # é-1" = true := by
  have limits : withinLimits (anchored "dlh # é-1".toList) = true := by decide +kernel
  have agrees := ofText?_agrees limits
  obtain ⟨b, accepted⟩ := Option.isSome_iff_exists.mp (agrees.1.mp rfl)
  refine ⟨limits, b, accepted, ?_⟩
  rw [← agrees.2 (.exact "dlh # é-1") b rfl accepted]
  exact beq_self_eq_true "dlh # é-1"

end Address

end ReadoutControl
