import ReadoutControl.Proofs.Json.Reread

set_option autoImplicit false

/-!
A printed value is read as its tree, as far as its numbers are read as they were printed. The reader
is followed through the text of a value: from any state that waits for a value it arrives where the
value has been added to what was open before.
-/

namespace ReadoutControl.Json.Node.Progress

variable {p : Progress} {c : Char} {rest after : List Char}

theorem run?_eq (p : Progress) (cs : List Char) :
    p.run? cs = match cs.dropWhile isSpace with
      | [] => some p
      | c :: rest => (token? c rest).bind fun (t, after) => (p.step? t).bind (·.run? after) := by
  rw [run?.eq_def]
  split
  · next nothing => simp [nothing]
  · next c rest found =>
    simp only [found]
    split
    · next none => simp [none]
    · next t after token =>
      simp only [token, Option.bind_some]
      split
      · next stuck => simp [stuck]
      · next moved => simp [moved]

theorem run?_nil (p : Progress) : p.run? [] = some p := by simp [run?_eq]

theorem run?_space (space : isSpace c = true) : p.run? (c :: rest) = p.run? rest := by
  rw [run?_eq, run?_eq p rest, List.dropWhile_cons_of_pos space]

theorem run?_token (next : Progress) {t : Token} (visible : isSpace c = false)
    (token : token? c rest = some (t, after)) (step : p.step? t = some next) :
    p.run? (c :: rest) = next.run? after := by
  rw [run?_eq, List.dropWhile_cons_of_neg (by simp [visible])]
  simp [token, step]

theorem run?_newline (indent depth : Nat) :
    p.run? (newline indent depth ++ rest) = p.run? rest := by
  rw [newline, List.cons_append, run?_space (by decide)]
  induction indent * depth with
  | zero => rfl
  | succ n ih => rw [List.replicate_succ, List.cons_append, run?_space (by decide), ih]

/-- Whether a value may come next. -/
def TakesValue (due : Due) : Prop := due = .value ∨ due = .firstItem

theorem step?_value {frames : List Frame} {due : Due} {t : Token} (takes : TakesValue due)
    (opens : t ≠ .closeArr) : step? ⟨frames, due, none⟩ t = beginValue? frames t := by
  rcases takes with rfl | rfl
  · rfl
  · simp [step?, opens]

theorem ends_cons (stop : isNumberChar c = false ∧ c.isAlpha = false) : Ends (c :: rest) := by
  intro first here
  obtain rfl := Option.some.inj here
  exact stop

theorem ends_prettyItems (indent depth : Nat) (items : List Json) (rest : List Char) :
    Ends (prettyItems indent depth items ++ rest) := by
  cases items with
  | nil => exact ends_cons (by decide)
  | cons item items => exact ends_cons (by decide)

theorem ends_prettyFields (indent depth : Nat) (fields : List (String × Json)) (rest : List Char) :
    Ends (prettyFields indent depth fields ++ rest) := by
  cases fields with
  | nil => exact ends_cons (by decide)
  | cons field fields => exact ends_cons (by decide)

theorem run?_quoted (next : Progress) {s : String} (step : p.step? (.text (some s)) = some next) :
    p.run? (quoted s ++ rest) = next.run? rest := by
  rw [quoted, List.cons_append, List.append_assoc]
  exact run?_token next (by decide) (token?_quoted s rest) step

/-- The reader takes the text of the value wherever a value may come and no more than `depth` levels
are missing to the deepest nesting. -/
def Reads (indent depth : Nat) (v : Json) : Prop :=
  ∀ (frames : List Frame) (due : Due) (level : Nat) (rest : List Char),
    frames.length + depth ≤ maxDepth → TakesValue due → Ends rest →
      run? ⟨frames, due, none⟩ (pretty indent level v ++ rest) =
        run? (complete frames (ofJson v.reread)) rest

variable {indent depth level : Nat} {frames : List Frame}

theorem readableWithin_eq {frames : List Frame} (room : frames.length ≤ maxDepth) (node : Node) :
    readableWithin frames node = node := if_pos room

theorem complete_items (done : List Node) (node : Node) :
    complete (.items done :: frames) node = ⟨.items (node :: done) :: frames, .separator, none⟩ :=
  rfl

theorem complete_fields (done : List (String × Node)) (readable : Bool) (key : String)
    (node : Node) : complete (.fields done readable key :: frames) node =
      ⟨.fields ((key, node) :: done) readable key :: frames, .separator, none⟩ := rfl

/-- From behind an item to the end of its array. -/
theorem run?_prettyItems {items : List Json} (each : ∀ item ∈ items, Reads indent depth item)
    (room : frames.length + (depth + 1) ≤ maxDepth) (done : List Node) :
    run? ⟨.items done :: frames, .separator, none⟩ (prettyItems indent level items ++ rest) =
      run? (complete frames (.arr (done.reverse ++ ofItems (items.map reread)))) rest := by
  induction items generalizing done with
  | nil =>
    rw [prettyItems, List.append_assoc, run?_newline, List.singleton_append]
    refine run?_token _ (by decide) rfl ?_
    have within : (Frame.items done :: frames).length ≤ maxDepth := by
      rw [List.length_cons]
      omega
    simp [step?, close?, readableWithin_eq within, ofItems]
  | cons item items ih =>
    rw [List.forall_mem_cons] at each
    have inner : (Frame.items done :: frames).length + depth ≤ maxDepth := by
      rw [List.length_cons]
      omega
    rw [prettyItems, List.cons_append, List.append_assoc, List.append_assoc,
      run?_token ⟨.items done :: frames, .value, none⟩ (by decide) rfl rfl,
      run?_newline, each.1 _ _ _ _ inner (.inl rfl) (ends_prettyItems _ _ _ _)]
    rw [complete_items, ih each.2]
    simp [ofItems]

theorem run?_prettyFields {fields : List (String × Json)}
    (each : ∀ field ∈ fields, Reads indent depth field.2)
    (room : frames.length + (depth + 1) ≤ maxDepth) (done : List (String × Node)) (last : String) :
    run? ⟨.fields done true last :: frames, .separator, none⟩
        (prettyFields indent level fields ++ rest) =
      run? (complete frames (.obj (done.reverse ++
        ofFields (fields.map fun field => (field.1, field.2.reread))))) rest := by
  induction fields generalizing done last with
  | nil =>
    rw [prettyFields, List.append_assoc, run?_newline, List.singleton_append]
    refine run?_token _ (by decide) rfl ?_
    have within : (Frame.fields done true last :: frames).length ≤ maxDepth := by
      rw [List.length_cons]
      omega
    simp [step?, close?, readableWithin_eq within, ofFields]
  | cons field fields ih =>
    obtain ⟨key, value⟩ := field
    rw [List.forall_mem_cons] at each
    have inner : (Frame.fields done true key :: frames).length + depth ≤ maxDepth := by
      rw [List.length_cons]
      omega
    rw [prettyFields, List.cons_append, List.append_assoc, List.append_assoc,
      run?_token ⟨.fields done true last :: frames, .key, none⟩ (by decide) rfl rfl,
      run?_newline, run?_quoted ⟨.fields done true key :: frames, .colon, none⟩ rfl,
      List.cons_append, List.cons_append, List.append_assoc,
      run?_token ⟨.fields done true key :: frames, .value, none⟩ (by decide) rfl rfl,
      run?_space (by decide), each.1 _ _ _ _ inner (.inl rfl) (ends_prettyFields _ _ _ _)]
    rw [complete_fields, ih each.2]
    simp [ofFields]

theorem reads_scalar {v : Json} (value : Scalar) {word : List Char} (visible : isSpace c = false)
    (text : ∀ level, pretty indent level v = c :: word) (node : ofJson v.reread = ofScalar value)
    (token : ∀ rest, Ends rest → token? c (word ++ rest) = some (.scalar value, rest)) :
    Reads indent depth v := by
  intro frames due level rest _ takes ends
  rw [text, List.cons_append, node]
  exact run?_token _ visible (token rest ends) (step?_value takes (by simp))

theorem isSpace_of_number {c : Char} (first : (c.isDigit || c = '-') = true) :
    isSpace c = false := by
  cases space : isSpace c with
  | false => rfl
  | true =>
    simp only [isSpace, Bool.or_eq_true, decide_eq_true_eq] at space
    rcases space with ((rfl | rfl) | rfl) | rfl <;> simp at first

theorem reads_number {v : Json} (value : Scalar) {cs : List Char}
    (text : ∀ level, pretty indent level v = cs) (node : ofJson v.reread = ofScalar value)
    (read : number? cs = some value) : Reads indent depth v := by
  obtain ⟨c, word, rfl, first, _⟩ := chars_of_number? read
  exact reads_scalar value (isSpace_of_number first) text node fun rest ends =>
    token?_number read ends

theorem reads_arr {items : List Json} (each : ∀ item ∈ items, Reads indent depth item) :
    Reads indent (depth + 1) (.arr items) := by
  intro frames due level rest room takes _
  have within : (Frame.items [] :: frames).length + depth ≤ maxDepth := by
    rw [List.length_cons]
    omega
  have opened : step? ⟨frames, due, none⟩ .openArr = beginValue? frames .openArr :=
    step?_value takes (by simp)
  cases items with
  | nil =>
    rw [pretty, List.cons_append, run?_token _ (by decide) rfl opened]
    refine run?_token _ (by decide) rfl ?_
    simp [step?, close?, readableWithin_eq (Nat.le_of_add_right_le within), reread_arr, ofJson,
      ofItems]
  | cons item items =>
    rw [List.forall_mem_cons] at each
    rw [pretty, List.cons_append, List.append_assoc, List.append_assoc,
      run?_token _ (by decide) rfl opened, run?_newline,
      each.1 _ _ _ _ within (.inr rfl) (ends_prettyItems _ _ _ _), complete_items,
      run?_prettyItems each.2 room, reread_arr, ofJson]
    rfl

theorem reads_obj {fields : List (String × Json)}
    (each : ∀ field ∈ fields, Reads indent depth field.2) :
    Reads indent (depth + 1) (.obj fields) := by
  intro frames due level rest room takes _
  have opened : step? ⟨frames, due, none⟩ .openObj = beginValue? frames .openObj :=
    step?_value takes (by simp)
  cases fields with
  | nil =>
    have within : (Frame.fields [] true "" :: frames).length ≤ maxDepth := by
      rw [List.length_cons]
      omega
    rw [pretty, List.cons_append, run?_token _ (by decide) rfl opened]
    refine run?_token _ (by decide) rfl ?_
    simp [step?, close?, readableWithin_eq within, reread_obj, ofJson, ofFields]
  | cons field fields =>
    obtain ⟨key, value⟩ := field
    have within : (Frame.fields [] true key :: frames).length + depth ≤ maxDepth := by
      rw [List.length_cons]
      omega
    rw [List.forall_mem_cons] at each
    rw [pretty, List.cons_append, List.append_assoc, List.append_assoc,
      run?_token _ (by decide) rfl opened, run?_newline,
      run?_quoted ⟨.fields [] true key :: frames, .colon, none⟩ rfl, List.cons_append,
      List.cons_append, List.append_assoc,
      run?_token ⟨.fields [] true key :: frames, .value, none⟩ (by decide) rfl rfl,
      run?_space (by decide), each.1 _ _ _ _ within (.inl rfl) (ends_prettyFields _ _ _ _),
      complete_fields, run?_prettyFields each.2 room, reread_obj, ofJson]
    rfl

/-- Wherever there is room for its nesting, a value is read. -/
theorem reads_of_fits {v : Json} (fits : v.Fits Binary64.Rereads depth) :
    Reads indent depth v := by
  induction fits with
  | null =>
    exact reads_scalar .null (by decide) (fun _ => rfl) rfl fun rest ends =>
      token?_word (by decide) (by decide) (by decide) (by decide) ends
  | bool b =>
    cases b with
    | false =>
      exact reads_scalar (.bool false) (by decide) (fun _ => rfl) rfl fun rest ends =>
        token?_word (by decide) (by decide) (by decide) (by decide) ends
    | true =>
      exact reads_scalar (.bool true) (by decide) (fun _ => rfl) rfl fun rest ends =>
        token?_word (by decide) (by decide) (by decide) (by decide) ends
  | @int _ n lower upper =>
    exact reads_number (.int n) (fun _ => rfl) rfl (number?_intText lower upper)
  | @float _ x rereads => exact reads_number (.float x.reread) (fun _ => rfl) rfl rereads
  | str s =>
    intro frames due level rest _ takes _
    exact run?_quoted _ (step?_value takes (by simp))
  | arr _ ih => exact reads_arr ih
  | obj _ ih => exact reads_obj ih

end ReadoutControl.Json.Node.Progress

namespace ReadoutControl.Json

/-- A text is read as the tree of what its numbers are read as, however far its lines are indented. -/
theorem ofText?_pretty {v : Json} (fits : v.Fits Binary64.Rereads Node.maxDepth) (indent : Nat) :
    Node.ofText? (v.pretty indent 0) = some (Node.ofJson v.reread) := by
  have reads : Node.Progress.Reads indent Node.maxDepth v := Node.Progress.reads_of_fits fits
  have read := reads [] .value 0 [] (Nat.le_of_eq (Nat.zero_add _)) (.inl rfl) (by simp [Ends])
  rw [List.append_nil, Node.Progress.run?_nil] at read
  rw [Node.ofText?, Node.Progress.start, read]
  rfl

/-- The document of a value is read as the tree of what its numbers are read as. -/
theorem ofText?_reread {v : Json} (fits : v.Fits Binary64.Rereads Node.maxDepth) :
    Node.ofText? v.document.toList = some v.reread.tree := by
  rw [document, String.toList_ofList, ofText?_pretty fits.sorted, reread_sorted]
  rfl

/-- The document of a value is read as the tree of the value. -/
theorem ofText?_document {v : Json} (fits : v.Fits Binary64.ReadsBack Node.maxDepth) :
    Node.ofText? v.document.toList = some v.tree := by
  rw [ofText?_reread (fits.of_floats fun _ _ back => back.rereads), fits.reread_eq]

/-- A numeral alone is read as its value. -/
theorem ofText?_number {cs : List Char} {value : Scalar} (read : number? cs = some value) :
    Node.ofText? cs = some (Node.ofScalar value) := by
  obtain ⟨c, word, rfl, first, _⟩ := chars_of_number? read
  have visible := Node.Progress.isSpace_of_number first
  have token := @token?_number _ _ [] _ read (by simp [Ends])
  have step : Node.Progress.start.step? (.scalar value) =
      some (Node.Progress.complete [] (Node.ofScalar value)) := rfl
  rw [List.append_nil] at token
  rw [Node.ofText?, Node.Progress.run?_token _ visible token step, Node.Progress.run?_nil]
  rfl

/-- Text alone is read as it was written. -/
theorem ofText?_str (s : String) : Node.ofText? (Json.str s).compact = some (.str s) := by
  have step : Node.Progress.start.step? (.text (some s)) =
      some (Node.Progress.complete [] (.str s)) := rfl
  have read := @Node.Progress.run?_quoted _ [] _ s step
  rw [List.append_nil, Node.Progress.run?_nil] at read
  rw [compact, Node.ofText?, read]
  rfl

end ReadoutControl.Json
