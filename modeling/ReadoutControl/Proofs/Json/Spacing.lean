import ReadoutControl.Proofs.Json.Reading

set_option autoImplicit false

/-!
Blanks between tokens. The reader goes by the tokens of a text alone, and a value printed on one
line has the tokens that it has on many, so both are read alike.
-/

namespace ReadoutControl.Json

open Node Node.Progress

/-- Texts with the same tokens, the first with any number of blanks between them. -/
inductive Spaced : List Char → List Char → Prop
  | nil : Spaced [] []
  | blank {c : Char} {cs ds : List Char} : isSpace c = true → Spaced cs ds → Spaced (c :: cs) ds
  | token {c : Char} {cs ds rest after : List Char} {t : Token} : isSpace c = false →
    token? c cs = some (t, rest) → token? c ds = some (t, after) → Spaced rest after →
      Spaced (c :: cs) (c :: ds)

/-- The reader passes over blanks. -/
theorem Spaced.run?_eq {cs ds : List Char} (spaced : Spaced cs ds) (p : Progress) :
    p.run? cs = p.run? ds := by
  induction spaced generalizing p with
  | nil => rfl
  | blank space _ ih => rw [run?_space space, ih]
  | @token c cs ds rest after t visible token token' _ ih =>
    rw [Progress.run?_eq, Progress.run?_eq p (c :: ds),
      List.dropWhile_cons_of_neg (by simp [visible]),
      List.dropWhile_cons_of_neg (by simp [visible])]
    simp only [token, token', Option.bind_some, ih]

variable {indent level depth : Nat} {rest after : List Char}

theorem spaced_newline (spaced : Spaced rest after) :
    Spaced (newline indent level ++ rest) after := by
  have blanks (n : Nat) : Spaced (List.replicate n ' ' ++ rest) after := by
    induction n with
    | zero => exact spaced
    | succ n ih => exact .blank (by decide) ih
  exact .blank (by decide) (blanks _)

theorem spaced_quoted (spaced : Spaced rest after) (s : String) :
    Spaced (quoted s ++ rest) (quoted s ++ after) := by
  have text (more : List Char) : quoted s ++ more =
      '"' :: (s.toList.flatMap escapeChar ++ '"' :: more) := by simp [quoted]
  rw [text, text]
  exact .token (by decide) (token?_quoted s rest) (token?_quoted s after) spaced

theorem ends_compactItems (items : List Json) (rest : List Char) :
    Ends (compactItems items ++ rest) := by
  cases items with
  | nil => exact ends_cons (by decide)
  | cons item items => exact ends_cons (by decide)

theorem ends_compactFields (fields : List (String × Json)) (rest : List Char) :
    Ends (compactFields fields ++ rest) := by
  cases fields with
  | nil => exact ends_cons (by decide)
  | cons field fields => exact ends_cons (by decide)

/-- The text of the value on one line has the same tokens, whatever follows it. -/
def Folds (indent : Nat) (v : Json) : Prop :=
  ∀ (level : Nat) (rest after : List Char), Ends rest → Ends after → Spaced rest after →
    Spaced (pretty indent level v ++ rest) (compact v ++ after)

theorem folds_scalar {v : Json} {c : Char} {word : List Char} (value : Scalar)
    (text : ∀ level, pretty indent level v = c :: word) (line : compact v = c :: word)
    (visible : isSpace c = false)
    (token : ∀ rest, Ends rest → token? c (word ++ rest) = some (.scalar value, rest)) :
    Folds indent v := by
  intro level rest after ends ends' spaced
  rw [text, line]
  exact .token visible (token rest ends) (token after ends') spaced

theorem folds_number {v : Json} {cs : List Char} {value : Scalar}
    (text : ∀ level, pretty indent level v = cs) (line : compact v = cs)
    (read : number? cs = some value) : Folds indent v := by
  obtain ⟨c, word, rfl, first, _⟩ := chars_of_number? read
  exact folds_scalar value text line (isSpace_of_number first) fun rest ends =>
    token?_number read ends

theorem spaced_items {items : List Json} (each : ∀ item ∈ items, Folds indent item)
    (spaced : Spaced rest after) :
    Spaced (prettyItems indent level items ++ rest) (compactItems items ++ after) := by
  induction items with
  | nil =>
    rw [prettyItems, List.append_assoc]
    exact spaced_newline (.token (by decide) rfl rfl spaced)
  | cons item items ih =>
    rw [List.forall_mem_cons] at each
    simp only [prettyItems, compactItems, List.cons_append, List.append_assoc]
    refine .token (by decide) rfl rfl (spaced_newline ?_)
    exact each.1 _ _ _ (ends_prettyItems _ _ _ _) (ends_compactItems _ _) (ih each.2)

theorem spaced_fields {fields : List (String × Json)}
    (each : ∀ field ∈ fields, Folds indent field.2) (spaced : Spaced rest after) :
    Spaced (prettyFields indent level fields ++ rest) (compactFields fields ++ after) := by
  induction fields with
  | nil =>
    rw [prettyFields, List.append_assoc]
    exact spaced_newline (.token (by decide) rfl rfl spaced)
  | cons field fields ih =>
    obtain ⟨key, value⟩ := field
    rw [List.forall_mem_cons] at each
    simp only [prettyFields, compactFields, List.cons_append, List.append_assoc]
    refine .token (by decide) rfl rfl (spaced_newline (spaced_quoted ?_ key))
    refine .token (by decide) rfl rfl (.blank (by decide) ?_)
    exact each.1 _ _ _ (ends_prettyFields _ _ _ _) (ends_compactFields _ _) (ih each.2)

theorem folds_arr {items : List Json} (each : ∀ item ∈ items, Folds indent item) :
    Folds indent (.arr items) := by
  intro level rest after _ _ spaced
  cases items with
  | nil => exact .token (by decide) rfl rfl (.token (by decide) rfl rfl spaced)
  | cons item items =>
    rw [List.forall_mem_cons] at each
    simp only [pretty, compact, List.cons_append, List.append_assoc]
    refine .token (by decide) rfl rfl (spaced_newline ?_)
    exact each.1 _ _ _ (ends_prettyItems _ _ _ _) (ends_compactItems _ _)
      (spaced_items each.2 spaced)

theorem folds_obj {fields : List (String × Json)}
    (each : ∀ field ∈ fields, Folds indent field.2) : Folds indent (.obj fields) := by
  intro level rest after _ _ spaced
  cases fields with
  | nil => exact .token (by decide) rfl rfl (.token (by decide) rfl rfl spaced)
  | cons field fields =>
    obtain ⟨key, value⟩ := field
    rw [List.forall_mem_cons] at each
    simp only [pretty, compact, List.cons_append, List.append_assoc]
    refine .token (by decide) rfl rfl (spaced_newline (spaced_quoted ?_ key))
    refine .token (by decide) rfl rfl (.blank (by decide) ?_)
    exact each.1 _ _ _ (ends_prettyFields _ _ _ _) (ends_compactFields _ _)
      (spaced_fields each.2 spaced)

theorem folds_of_fits {v : Json} (fits : v.Fits Binary64.Rereads depth) : Folds indent v := by
  induction fits with
  | null =>
    exact folds_scalar .null (fun _ => rfl) rfl (by decide) fun rest ends =>
      token?_word (by decide) (by decide) (by decide) (by decide) ends
  | bool b =>
    cases b with
    | false =>
      exact folds_scalar (.bool false) (fun _ => rfl) rfl (by decide) fun rest ends =>
        token?_word (by decide) (by decide) (by decide) (by decide) ends
    | true =>
      exact folds_scalar (.bool true) (fun _ => rfl) rfl (by decide) fun rest ends =>
        token?_word (by decide) (by decide) (by decide) (by decide) ends
  | int lower upper => exact folds_number (fun _ => rfl) rfl (number?_intText lower upper)
  | float rereads => exact folds_number (fun _ => rfl) rfl rereads
  | str s => exact fun _ _ _ _ _ spaced => spaced_quoted spaced s
  | arr _ ih => exact folds_arr ih
  | obj _ ih => exact folds_obj ih

/-- A value on one line is read as it is with every item on a line of its own. -/
theorem ofText?_compact {v : Json} (fits : v.Fits Binary64.Rereads depth) (indent : Nat) :
    Node.ofText? v.compact = Node.ofText? (v.pretty indent 0) := by
  have folds : Folds indent v := folds_of_fits fits
  have spaced := folds 0 [] [] (by simp [Ends]) (by simp [Ends]) .nil
  rw [List.append_nil, List.append_nil] at spaced
  rw [Node.ofText?, Node.ofText?, spaced.run?_eq]

end ReadoutControl.Json
