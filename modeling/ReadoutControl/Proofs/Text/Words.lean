import ReadoutControl.Text.Blank

set_option autoImplicit false

/-!
Words and lines, said without splitting: the words of a line lie between blanks, and a text of
lines has an end after each of them. The fields of a line are its words.
-/

namespace ReadoutControl.Text

/-- A word has characters, none of them blank. -/
def IsWord (word : List Char) : Prop := word ≠ [] ∧ ∀ c ∈ word, isBlank c = false

/-- How words lie in a line. Any blanks may surround them, and some stand between two. -/
inductive Words : List (List Char) → List Char → Prop
  | blank {line : List Char} : (∀ c ∈ line, isBlank c = true) → Words [] line
  | word {before word after : List Char} {words : List (List Char)} :
    (∀ c ∈ before, isBlank c = true) → IsWord word →
      (∀ c, after.head? = some c → isBlank c = true) → Words words after →
      Words (word :: words) (before ++ word ++ after)

/-- How a text falls into lines, with an end after each but the last. -/
inductive Lines : List (List Char) → List Char → Prop
  | last {line : List Char} : '\n' ∉ line → Lines [line] line
  | cons {line rest : List Char} {ls : List (List Char)} :
    '\n' ∉ line → Lines ls rest → Lines (line :: ls) (line ++ '\n' :: rest)

/-- Words with a space after each. -/
def spaced (words : List (List Char)) : List Char := words.flatMap (· ++ [' '])

/-- The text of lines that are all ended. -/
def ended (ls : List (List Char)) : List Char := ls.flatMap (· ++ ['\n'])

section Splitting

variable {separates : Char → Bool}

theorem splitAt_of_forall {piece : List Char} (solid : ∀ c ∈ piece, separates c = false) :
    splitAt separates piece = [piece] := by
  induction piece with
  | nil => rfl
  | cons c rest ih =>
    rw [List.forall_mem_cons] at solid
    simp [splitAt, solid.1, ih solid.2]

theorem exists_splitAt (separates : Char → Bool) (cs : List Char) :
    ∃ first later, splitAt separates cs = first :: later := by
  cases cs with
  | nil => exact ⟨[], [], rfl⟩
  | cons c rest =>
    rw [splitAt]
    split
    · exact ⟨_, _, rfl⟩
    · split <;> exact ⟨_, _, rfl⟩

/-- What stands before a separator and what follows it are split apart. -/
theorem splitAt_append_separator {c : Char} (separator : separates c = true)
    (front rest : List Char) :
    splitAt separates (front ++ c :: rest) =
      splitAt separates front ++ splitAt separates rest := by
  induction front with
  | nil => simp [splitAt, separator]
  | cons first others ih =>
    obtain ⟨piece, pieces, split⟩ := exists_splitAt separates others
    cases apart : separates first <;> simp [splitAt, apart, ih, split]

theorem splitAt_append_cons {piece : List Char} (solid : ∀ c ∈ piece, separates c = false)
    {c : Char} (separator : separates c = true) (rest : List Char) :
    splitAt separates (piece ++ c :: rest) = piece :: splitAt separates rest := by
  rw [splitAt_append_separator separator, splitAt_of_forall solid, List.singleton_append]

end Splitting

theorem fields_blank_cons {c : Char} (blank : isBlank c = true) (rest : List Char) :
    fields (c :: rest) = fields rest := by
  simp [fields, splitAt, blank]

theorem fields_append_of_blank {before : List Char} (blank : ∀ c ∈ before, isBlank c = true)
    (rest : List Char) : fields (before ++ rest) = fields rest := by
  induction before with
  | nil => rfl
  | cons c others ih =>
    rw [List.forall_mem_cons] at blank
    rw [List.cons_append, fields_blank_cons blank.1, ih blank.2]

theorem fields_word_append {word after : List Char} (solid : IsWord word)
    (apart : ∀ c, after.head? = some c → isBlank c = true) :
    fields (word ++ after) = word :: fields after := by
  cases after with
  | nil => simp [fields, splitAt_of_forall solid.2, splitAt, solid.1]
  | cons c rest =>
    have blank : isBlank c = true := apart c rfl
    rw [fields_blank_cons blank, fields, splitAt_append_cons solid.2 blank, List.filter_cons_of_pos]
    · rfl
    · simpa using solid.1

namespace Words

variable {words : List (List Char)} {line : List Char}

theorem fields_eq (h : Words words line) : fields line = words := by
  induction h with
  | @blank line blank =>
    rw [← List.append_nil line, fields_append_of_blank blank]
    rfl
  | word blank solid apart _ ih =>
    rw [List.append_assoc, fields_append_of_blank blank, fields_word_append solid apart, ih]

theorem blank_cons (h : Words words line) {c : Char} (blank : isBlank c = true) :
    Words words (c :: line) := by
  cases h with
  | blank others => exact .blank (List.forall_mem_cons.mpr ⟨blank, others⟩)
  | word others solid apart rest =>
    exact .word (List.forall_mem_cons.mpr ⟨blank, others⟩) solid apart rest

theorem append_blank (h : Words words line) {c : Char} (blank : isBlank c = true) :
    Words words (line ++ [c]) := by
  induction h with
  | blank others => exact .blank (List.forall_mem_append.mpr ⟨others, by simpa using blank⟩)
  | @word before word after words others solid apart _ ih =>
    rw [List.append_assoc]
    refine .word others solid ?_ ih
    intro d head
    cases after with
    | nil =>
      obtain rfl : c = d := by simpa using head
      exact blank
    | cons e rest => exact apart d head

theorem mem_line (h : Words words line) {word : List Char} (member : word ∈ words) {c : Char}
    (inside : c ∈ word) : c ∈ line := by
  induction h with
  | blank _ => exact nomatch member
  | @word before first after words _ _ _ _ ih =>
    rcases List.mem_cons.mp member with rfl | later
    · exact List.mem_append_left after (List.mem_append_right before inside)
    · exact List.mem_append_right (before ++ first) (ih later)

/-- A word stands at the front of a line where blanks follow it. -/
theorem cons {word : List Char} (solid : IsWord word)
    (apart : ∀ c, line.head? = some c → isBlank c = true) (h : Words words line) :
    Words (word :: words) (word ++ line) := by
  have bare : ∀ c ∈ ([] : List Char), isBlank c = true := by simp
  exact .word bare solid apart h

/-- A character in front of a line is a word of its own or joins the word that begins there. -/
theorem solid_cons (h : Words words line) {c : Char} (solid : isBlank c = false) :
    ∃ others, Words others (c :: line) := by
  by_cases apart : ∀ d, line.head? = some d → isBlank d = true
  · have alone : IsWord [c] := ⟨List.cons_ne_nil c [], by simpa using solid⟩
    exact ⟨_, .cons alone apart h⟩
  · cases h with
    | blank blank => exact absurd (fun d head => blank d (List.mem_of_head? head)) apart
    | @word before word after words blank others following rest =>
      cases before with
      | nil =>
        have joined : IsWord (c :: word) :=
          ⟨List.cons_ne_nil c word, List.forall_mem_cons.mpr ⟨solid, others.2⟩⟩
        exact ⟨_, .cons joined following rest⟩
      | cons d _ =>
        refine absurd (fun e head => ?_) apart
        obtain rfl : d = e := by simpa using head
        exact blank d List.mem_cons_self

end Words

theorem words_spaced {words : List (List Char)} (solid : ∀ word ∈ words, IsWord word) :
    Words words (spaced words) := by
  induction words with
  | nil => exact .blank (by simp [spaced])
  | cons word rest ih =>
    rw [List.forall_mem_cons] at solid
    have line : spaced (word :: rest) = word ++ ' ' :: spaced rest := by simp [spaced]
    have apart : ∀ c, (' ' :: spaced rest).head? = some c → isBlank c = true := by
      rintro c ⟨⟩
      decide
    rw [line]
    exact .cons solid.1 apart ((ih solid.2).blank_cons (by decide))

theorem newline_notMem_spaced {words : List (List Char)} (solid : ∀ word ∈ words, IsWord word) :
    '\n' ∉ spaced words := by
  intro member
  obtain ⟨word, here, inside⟩ := List.mem_flatMap.mp member
  rcases List.mem_append.mp inside with char | space
  · exact absurd ((solid word here).2 _ char) (by decide)
  · simp at space

theorem exists_words (line : List Char) : ∃ words, Words words line := by
  induction line with
  | nil => exact ⟨[], .blank (by simp)⟩
  | cons c rest ih =>
    obtain ⟨words, h⟩ := ih
    cases blank : isBlank c with
    | true => exact ⟨words, h.blank_cons blank⟩
    | false => exact h.solid_cons blank

theorem fields_eq_iff {words : List (List Char)} {line : List Char} :
    fields line = words ↔ Words words line := by
  constructor
  · rintro rfl
    obtain ⟨words, h⟩ := exists_words line
    rwa [h.fields_eq]
  · exact Words.fields_eq

/-- A carriage return before the end of a line is no part of a word. -/
theorem fields_dropReturn (line : List Char) : fields (dropReturn line) = fields line := by
  unfold dropReturn
  split
  next last =>
    obtain ⟨before, rfl⟩ := List.getLast?_eq_some_iff.mp last
    have words : Words (fields before) before := fields_eq_iff.mp rfl
    rw [List.dropLast_concat, (words.append_blank (by decide)).fields_eq]
  next => rfl

theorem splitAt_append_newline {line : List Char} (single : '\n' ∉ line) (rest : List Char) :
    splitAt (· = '\n') (line ++ '\n' :: rest) = line :: splitAt (· = '\n') rest := by
  have solid : ∀ c ∈ line, decide (c = '\n') = false := by
    intro c member
    simpa using ne_of_mem_of_not_mem member single
  exact splitAt_append_cons solid (by simp) rest

theorem splitAt_ended {ls : List (List Char)} (single : ∀ line ∈ ls, '\n' ∉ line) :
    splitAt (· = '\n') (ended ls) = ls ++ [[]] := by
  induction ls with
  | nil => rfl
  | cons line rest ih =>
    rw [List.forall_mem_cons] at single
    have first : ended (line :: rest) = line ++ '\n' :: ended rest := by simp [ended]
    rw [first, splitAt_append_newline single.1, ih single.2, List.cons_append]

theorem lines_ended {ls : List (List Char)} (single : ∀ line ∈ ls, '\n' ∉ line) :
    lines (ended ls) = ls.map dropReturn := by
  simp [lines, splitAt_ended single]

namespace Lines

variable {ls : List (List Char)} {cs : List Char}

theorem splitAt_eq (h : Lines ls cs) : splitAt (· = '\n') cs = ls := by
  induction h with
  | @last line single =>
    refine splitAt_of_forall fun c member => ?_
    simpa using ne_of_mem_of_not_mem member single
  | cons single _ ih => rw [splitAt_append_newline single, ih]

theorem mem_text (h : Lines ls cs) {line : List Char} (member : line ∈ ls) {c : Char}
    (inside : c ∈ line) : c ∈ cs := by
  induction h with
  | last _ => rwa [List.mem_singleton.mp member] at inside
  | @cons first rest ls _ _ ih =>
    rcases List.mem_cons.mp member with rfl | later
    · exact List.mem_append_left _ inside
    · exact List.mem_append_right first (List.mem_cons_of_mem _ (ih later))

/-- A character in front of a text is a line of its own or belongs to the first line. -/
theorem cons_char (h : Lines ls cs) (c : Char) : ∃ others, Lines others (c :: cs) := by
  by_cases newline : c = '\n'
  · subst newline
    exact ⟨[] :: ls, .cons List.not_mem_nil h⟩
  · cases h with
    | last single => exact ⟨[c :: cs], .last (by simp [Ne.symm newline, single])⟩
    | @cons line rest ls single others =>
      exact ⟨(c :: line) :: ls, .cons (by simp [Ne.symm newline, single]) others⟩

/-- Whatever is taken of each line after the first, the returns at their ends and an empty last
line make no difference. -/
theorem filterMap_lines {α : Type} {f : List Char → Option α} (h : Lines ls cs)
    (nothing : f [] = none) (returns : ∀ line, f (dropReturn line) = f line) :
    ((lines cs).drop 1).filterMap f = (ls.drop 1).filterMap f := by
  have same : f ∘ dropReturn = f := funext returns
  have whole (pieces : List (List Char)) : (pieces.dropLast.map dropReturn ++
      pieces.getLast?.toList.filter (!·.isEmpty)).filterMap f = pieces.filterMap f := by
    rcases List.eq_nil_or_concat pieces with rfl | ⟨front, last, rfl⟩
    · rfl
    · rw [List.concat_eq_append, List.dropLast_concat, List.getLast?_concat, List.filterMap_append,
        List.filterMap_map, same, List.filterMap_append]
      cases last with
      | nil => simp [nothing]
      | cons c rest => rfl
  rw [lines, h.splitAt_eq]
  match ls with
  | [] => rfl
  | [[]] => rfl
  | [_ :: _] => rfl
  | _ :: second :: rest => exact whole (second :: rest)

end Lines

theorem exists_lines (cs : List Char) : ∃ ls, Lines ls cs := by
  induction cs with
  | nil => exact ⟨[[]], .last List.not_mem_nil⟩
  | cons c rest ih =>
    obtain ⟨ls, h⟩ := ih
    exact h.cons_char c

end ReadoutControl.Text
