import ReadoutControl.Proofs.Command.Pattern

set_option autoImplicit false

/-!
An address that is written and read again. Both kinds of address are written as bare text, so what
is read is what the text means, and a name is only kept if its text means the name: the empty one
means every module, and one with an operator of expressions is taken for an expression.
-/

namespace ReadoutControl

open Regex

namespace Address

theorem read?_compact (a : Address) :
    (Json.Node.ofText? a.toJson.compact).bind Address.read? = ofText? a.text := by
  rw [toJson, Json.ofText?_str]
  rfl

theorem ofText?_of_special {text : String} (special : looksLikePattern text = true) :
    ofText? text = pattern? text := if_pos special

theorem ofText?_of_plain {text : String} (plain : looksLikePattern text = false) :
    ofText? text = some (.exact text) := by
  unfold ofText?
  rw [plain]
  rfl

/-- A pattern without operators matches its own text and nothing else. -/
theorem matchesName_plain_iff {text : String} {a : Address} (accepted : pattern? text = some a)
    (something : text ≠ "") (plain : IsPlain text.toList) (name : String) :
    a.matchesName name = true ↔ name = text := by
  obtain ⟨s, means, same⟩ := matchesName_of_pattern? accepted something
  obtain rfl := Option.some.inj ((meaning?_anchored_plain plain).symm.trans means)
  rw [same, isMatch_whole_ofChars_iff, String.toList_inj]

theorem matchesName_exact_iff {text name : String} :
    (exact text).matchesName name = true ↔ name = text := by
  rw [matchesName, beq_iff_eq, eq_comm]

/-- Every pattern is read back from its text as one that matches the same names: as itself, or as the
name that it is. -/
theorem ofText?_pattern (p : NamePattern) :
    ∃ b, ofText? (pattern p).text = some b ∧
      ∀ name, b.matchesName name = (pattern p).matchesName name := by
  have accepted : pattern? p.expr = some (.pattern p) := by
    rw [pattern?, p.ofText?_expr]
    rfl
  rw [text]
  cases special : looksLikePattern p.expr with
  | true =>
    rw [ofText?_of_special special]
    exact ⟨_, accepted, fun name => rfl⟩
  | false =>
    obtain ⟨something, letters⟩ := looksLikePattern_eq_false_iff.mp special
    refine ⟨_, ofText?_of_plain special, ?_⟩
    intro name
    rw [Bool.eq_iff_iff, matchesName_exact_iff,
      matchesName_plain_iff accepted something (isPlain_of_metaChars letters)]

/-- A text without operators means an address that matches just the text. Closing brackets and
braces make it a pattern, but they stand for themselves. -/
theorem ofText?_name {text : String} (something : text ≠ "")
    (kept : (∀ c ∈ text.toList, c ∉ metaChars) ∨
      IsPlain text.toList ∧ withinLimits (anchored text.toList) = true) :
    ∃ b, ofText? text = some b ∧ ∀ name, b.matchesName name = true ↔ name = text := by
  cases special : looksLikePattern text with
  | false => exact ⟨_, ofText?_of_plain special, fun name => matchesName_exact_iff⟩
  | true =>
    rcases kept with letters | ⟨plain, limits⟩
    · rw [looksLikePattern_eq_false_iff.mpr ⟨something, letters⟩] at special
      exact nomatch special
    · have compiles : (pattern? text).isSome = true := by
        rw [isSome_pattern?, ofPattern?_of_ne something, if_pos limits,
          meaning?_anchored_plain plain]
        rfl
      obtain ⟨b, accepted⟩ := Option.isSome_iff_exists.mp compiles
      refine ⟨b, (ofText?_of_special special).trans accepted, ?_⟩
      exact matchesName_plain_iff accepted something plain

/-- What is read back of an address is what its text means. It matches the names that the address
matches, if this is a pattern, or a name that is not empty and has no operators; a name with closing
brackets or braces must be within the limits of expressions too. -/
theorem read?_written (a : Address) :
    (Json.Node.ofText? a.toJson.compact).bind Address.read? = ofText? a.text ∧
    ((∀ text, a = .exact text → text ≠ "" ∧ ((∀ c ∈ text.toList, c ∉ metaChars) ∨
        IsPlain text.toList ∧ withinLimits (anchored text.toList) = true)) →
      ∃ b, (Json.Node.ofText? a.toJson.compact).bind Address.read? = some b ∧
        ∀ name, b.matchesName name = a.matchesName name) := by
  refine ⟨a.read?_compact, ?_⟩
  intro portable
  rw [read?_compact]
  cases a with
  | pattern p => exact ofText?_pattern p
  | exact text =>
    obtain ⟨something, kept⟩ := portable text rfl
    obtain ⟨b, read, same⟩ := ofText?_name something kept
    refine ⟨b, read, ?_⟩
    intro name
    rw [Bool.eq_iff_iff, same, matchesName_exact_iff]

/-- A name with a closing bracket is read back as a pattern that matches the name. -/
theorem read?_written_bracket :
    (∀ text, exact "link]0" = .exact text → text ≠ "" ∧ ((∀ c ∈ text.toList, c ∉ metaChars) ∨
      IsPlain text.toList ∧ withinLimits (anchored text.toList) = true)) ∧
    ∃ b, (Json.Node.ofText? (exact "link]0").toJson.compact).bind Address.read? = some b ∧
      b.isExact = false ∧ ∀ name, b.matchesName name = (exact "link]0").matchesName name := by
  have portable : ∀ text, exact "link]0" = .exact text → text ≠ "" ∧
      ((∀ c ∈ text.toList, c ∉ metaChars) ∨
        IsPlain text.toList ∧ withinLimits (anchored text.toList) = true) := by
    intro text same
    obtain rfl := Address.exact.inj same
    have plain : IsPlain "link]0".toList := by
      simp [IsPlain, operators]
    exact ⟨by decide, .inr ⟨plain, by decide +kernel⟩⟩
  have marked : (ofText? "link]0").all (!·.isExact) = true := by decide +kernel
  obtain ⟨b, read, same⟩ := (read?_written (exact "link]0")).2 portable
  have meaning : ofText? "link]0" = some b := (read?_compact _).symm.trans read
  rw [meaning, Option.all_some, Bool.not_eq_true'] at marked
  exact ⟨portable, b, read, marked, same⟩

/-- The empty name is read back as the address of every module, a name with a dot as one that matches
other names too, and a name with an open parenthesis is refused. -/
theorem read?_written_changed :
    (∃ b, (Json.Node.ofText? (exact "").toJson.compact).bind Address.read? = some b ∧
      b.matchesName "tde" = true ∧ (exact "").matchesName "tde" = false) ∧
    (∃ b, (Json.Node.ofText? (exact "a.b").toJson.compact).bind Address.read? = some b ∧
      b.matchesName "axb" = true ∧ (exact "a.b").matchesName "axb" = false) ∧
    (Json.Node.ofText? (exact "a(").toJson.compact).bind Address.read? = none := by
  have every : (ofText? "").any (·.matchesName "tde") = true := by decide +kernel
  have dot : (ofText? "a.b").any (·.matchesName "axb") = true := by decide +kernel
  simp only [read?_compact]
  refine ⟨?_, ?_, ?_⟩
  · obtain ⟨b, read, matched⟩ := (Option.any_eq_true _ _).mp every
    exact ⟨b, read, matched, by decide⟩
  · obtain ⟨b, read, matched⟩ := (Option.any_eq_true _ _).mp dot
    exact ⟨b, read, matched, by decide⟩
  · rw [← Option.not_isSome_iff_eq_none]
    decide +kernel

end Address

end ReadoutControl
