import ReadoutControl.Proofs.Json.Reading

set_option autoImplicit false

/-!
Which value a text shows. From the text of a value without floating-point numbers the value can be
told, and where the text ends: no two of them begin a text alike. Integers of any size are told from
their digits here, not as the reader of texts takes them.
-/

namespace ReadoutControl.Json

open Node.Progress (ends_prettyItems ends_prettyFields)

variable {indent depth : Nat} {rest after : List Char}

theorem quoted_append_inj {s t : String} (same : quoted s ++ rest = quoted t ++ after) :
    s = t ∧ rest = after := by
  simp only [quoted, List.cons_append, List.append_assoc, List.cons.injEq, true_and,
    List.nil_append] at same
  have token := token?_quoted s rest
  rw [same, token?_quoted t after] at token
  obtain ⟨content, rfl⟩ := Prod.mk.inj (Option.some.inj token)
  exact ⟨(Option.some.inj (Token.text.inj content)).symm, rfl⟩

theorem isNumberChar_intText (n : Int) : ∀ c ∈ intText n, isNumberChar c = true := by
  have digits : ∀ c ∈ Decimal.digitChars n.natAbs, isNumberChar c = true :=
    fun c member => isNumberChar_of_isDigit (Decimal.isDigit_of_mem_digitChars member)
  unfold intText
  split
  · exact List.forall_mem_cons.mpr ⟨by decide, digits⟩
  · exact digits

theorem intText_inj {n m : Int} (same : intText n = intText m) : n = m := by
  have unsigned (k : Nat) (digits : List Char) : '-' :: digits ≠ Decimal.digitChars k := by
    intro signed
    have first : '-' ∈ Decimal.digitChars k := signed ▸ List.mem_cons_self
    exact absurd (Decimal.isDigit_of_mem_digitChars first) (by decide)
  unfold intText at same
  split at same <;> split at same
  · have digits := Decimal.digitChars_inj (List.cons.inj same).2
    omega
  · exact absurd same (unsigned _ _)
  · exact absurd same.symm (unsigned _ _)
  · have digits := Decimal.digitChars_inj same
    omega

theorem intText_append_inj {n m : Int} (ends : Ends rest) (ends' : Ends after)
    (same : intText n ++ rest = intText m ++ after) : n = m ∧ rest = after := by
  have stop : ∀ c ∈ rest.head?, isNumberChar c = false := fun c first => (ends c first).1
  have stop' : ∀ c ∈ after.head?, isNumberChar c = false := fun c first => (ends' c first).1
  have digits := takeWhile_run (isNumberChar_intText n) stop
  rw [same, takeWhile_run (isNumberChar_intText m) stop'] at digits
  obtain rfl := intText_inj digits
  exact ⟨rfl, List.append_cancel_left same⟩

/-- How the text of a value begins, if the value is no floating-point number. -/
inductive Begins : Char → Json → Prop
  | null : Begins 'n' .null
  | true : Begins 't' (.bool true)
  | false : Begins 'f' (.bool false)
  | int {c : Char} {n : Int} : isNumberChar c = Bool.true → Begins c (.int n)
  | str {s : String} : Begins '"' (.str s)
  | arr {items : List Json} : Begins '[' (.arr items)
  | obj {fields : List (String × Json)} : Begins '\x7b' (.obj fields)

theorem begins_pretty (indent depth : Nat) {v : Json} (exact : v.floats = []) :
    ∃ c text, pretty indent depth v = c :: text ∧ Begins c v := by
  cases v with
  | null => exact ⟨_, _, rfl, .null⟩
  | bool b =>
    cases b with
    | true => exact ⟨_, _, rfl, .true⟩
    | false => exact ⟨_, _, rfl, .false⟩
  | int n =>
    have some_char : intText n ≠ [] := by
      unfold intText
      split <;> simp [Decimal.digitChars_ne_nil]
    obtain ⟨c, text, chars⟩ := List.exists_cons_of_ne_nil some_char
    exact ⟨c, text, chars, .int (isNumberChar_intText n c (chars ▸ List.mem_cons_self))⟩
  | float x => simp [floats] at exact
  | str s => exact ⟨_, _, rfl, .str⟩
  | arr items => cases items <;> exact ⟨_, _, rfl, .arr⟩
  | obj fields => cases fields <;> exact ⟨_, _, rfl, .obj⟩

theorem floats_of_mem_arr {items : List Json} (exact : (Json.arr items).floats = []) :
    ∀ item ∈ items, item.floats = [] := by
  intro item member
  simp only [List.eq_nil_iff_forall_not_mem, mem_floats_arr] at exact ⊢
  exact fun x inside => exact x ⟨item, member, inside⟩

theorem floats_of_mem_obj {fields : List (String × Json)} (exact : (Json.obj fields).floats = []) :
    ∀ field ∈ fields, field.2.floats = [] := by
  intro field member
  simp only [List.eq_nil_iff_forall_not_mem, mem_floats_obj] at exact ⊢
  exact fun x inside => exact x ⟨field, member, inside⟩

/-- Wherever the text of the value begins a text, the text of no other value does. -/
def Legible (indent : Nat) (v : Json) : Prop :=
  ∀ (depth : Nat) (w : Json) (rest after : List Char), w.floats = [] → Ends rest → Ends after →
    pretty indent depth v ++ rest = pretty indent depth w ++ after → v = w ∧ rest = after

theorem prettyItems_append_inj {items others : List Json}
    (each : ∀ item ∈ items, Legible indent item) (exact : ∀ item ∈ others, item.floats = [])
    (same : prettyItems indent depth items ++ rest = prettyItems indent depth others ++ after) :
    items = others ∧ rest = after := by
  induction items generalizing others with
  | nil =>
    cases others with
    | nil => exact ⟨rfl, List.append_cancel_left same⟩
    | cons other others => simp [prettyItems, newline] at same
  | cons item items ih =>
    rw [List.forall_mem_cons] at each
    cases others with
    | nil => simp [prettyItems, newline] at same
    | cons other others =>
      rw [List.forall_mem_cons] at exact
      simp only [prettyItems, List.cons_append, List.append_assoc, List.cons.injEq, true_and,
        List.append_cancel_left_eq] at same
      obtain ⟨rfl, later⟩ := each.1 _ _ _ _ exact.1 (ends_prettyItems _ _ _ _)
        (ends_prettyItems _ _ _ _) same
      obtain ⟨rfl, rfl⟩ := ih each.2 exact.2 later
      exact ⟨rfl, rfl⟩

theorem prettyFields_append_inj {fields others : List (String × Json)}
    (each : ∀ field ∈ fields, Legible indent field.2)
    (exact : ∀ field ∈ others, field.2.floats = [])
    (same : prettyFields indent depth fields ++ rest = prettyFields indent depth others ++ after) :
    fields = others ∧ rest = after := by
  induction fields generalizing others with
  | nil =>
    cases others with
    | nil => exact ⟨rfl, List.append_cancel_left same⟩
    | cons other others => simp [prettyFields, newline] at same
  | cons field fields ih =>
    obtain ⟨key, value⟩ := field
    rw [List.forall_mem_cons] at each
    cases others with
    | nil => simp [prettyFields, newline] at same
    | cons other others =>
      obtain ⟨key', value'⟩ := other
      rw [List.forall_mem_cons] at exact
      simp only [prettyFields, List.cons_append, List.append_assoc, List.cons.injEq, true_and,
        List.append_cancel_left_eq] at same
      obtain ⟨rfl, values⟩ := quoted_append_inj same
      simp only [List.cons.injEq, true_and] at values
      obtain ⟨rfl, later⟩ := each.1 _ _ _ _ exact.1 (ends_prettyFields _ _ _ _)
        (ends_prettyFields _ _ _ _) values
      obtain ⟨rfl, rfl⟩ := ih each.2 exact.2 later
      exact ⟨rfl, rfl⟩

theorem begin_alike {v w : Json} (exact : v.floats = []) (exact' : w.floats = [])
    (same : pretty indent depth v ++ rest = pretty indent depth w ++ after) :
    ∃ c, Begins c v ∧ Begins c w := by
  obtain ⟨c, text, shown, begins⟩ := begins_pretty indent depth exact
  obtain ⟨d, text', shown', begins'⟩ := begins_pretty indent depth exact'
  rw [shown, shown'] at same
  obtain rfl : c = d := (List.cons.inj same).1
  exact ⟨c, begins, begins'⟩

theorem legible_arr {items : List Json} (each : ∀ item ∈ items, Legible indent item)
    (exact : (Json.arr items).floats = []) : Legible indent (.arr items) := by
  intro depth w rest after exact' _ _ same
  obtain ⟨c, ⟨⟩, begins⟩ := begin_alike exact exact' same
  cases begins with
  | int number => exact absurd number (by decide)
  | @arr others =>
    cases items with
    | nil =>
      cases others with
      | nil => exact ⟨rfl, List.append_cancel_left same⟩
      | cons other others => simp [pretty, newline] at same
    | cons item items =>
      cases others with
      | nil => simp [pretty, newline] at same
      | cons other others =>
        have behind : prettyItems indent depth (item :: items) ++ rest =
            prettyItems indent depth (other :: others) ++ after := by
          simpa [pretty, prettyItems] using same
        obtain ⟨alike, rfl⟩ := prettyItems_append_inj each (floats_of_mem_arr exact') behind
        exact ⟨congrArg Json.arr alike, rfl⟩

theorem legible_obj {fields : List (String × Json)}
    (each : ∀ field ∈ fields, Legible indent field.2) (exact : (Json.obj fields).floats = []) :
    Legible indent (.obj fields) := by
  intro depth w rest after exact' _ _ same
  obtain ⟨c, ⟨⟩, begins⟩ := begin_alike exact exact' same
  cases begins with
  | int number => exact absurd number (by decide)
  | @obj others =>
    cases fields with
    | nil =>
      cases others with
      | nil => exact ⟨rfl, List.append_cancel_left same⟩
      | cons other others => simp [pretty, newline] at same
    | cons field fields =>
      cases others with
      | nil => simp [pretty, newline] at same
      | cons other others =>
        have behind : prettyFields indent depth (field :: fields) ++ rest =
            prettyFields indent depth (other :: others) ++ after := by
          simpa [pretty, prettyFields] using same
        obtain ⟨alike, rfl⟩ := prettyFields_append_inj each (floats_of_mem_obj exact') behind
        exact ⟨congrArg Json.obj alike, rfl⟩

/-- A value without floating-point numbers is legible. -/
theorem legible_of_exact {v : Json} (exact : v.floats = []) : Legible indent v := by
  induction v using parts with
  | null =>
    intro depth w rest after exact' _ _ same
    obtain ⟨c, ⟨⟩, begins⟩ := begin_alike exact exact' same
    cases begins with
    | null => exact ⟨rfl, List.append_cancel_left same⟩
    | int number => exact absurd number (by decide)
  | bool b =>
    intro depth w rest after exact' _ _ same
    obtain ⟨c, begins, begins'⟩ := begin_alike exact exact' same
    cases begins with
    | true =>
      cases begins' with
      | true => exact ⟨rfl, List.append_cancel_left same⟩
      | int number => exact absurd number (by decide)
    | false =>
      cases begins' with
      | false => exact ⟨rfl, List.append_cancel_left same⟩
      | int number => exact absurd number (by decide)
  | int n =>
    intro depth w rest after exact' ends ends' same
    obtain ⟨c, begins, begins'⟩ := begin_alike exact exact' same
    cases begins with
    | int number =>
      cases begins' with
      | int =>
        obtain ⟨rfl, rfl⟩ := intText_append_inj ends ends' same
        exact ⟨rfl, rfl⟩
      | _ => exact absurd number (by decide)
  | float x => simp [floats] at exact
  | str s =>
    intro depth w rest after exact' _ _ same
    obtain ⟨c, ⟨⟩, begins⟩ := begin_alike exact exact' same
    cases begins with
    | str =>
      obtain ⟨rfl, rfl⟩ := quoted_append_inj same
      exact ⟨rfl, rfl⟩
    | int number => exact absurd number (by decide)
  | arr items ih =>
    exact legible_arr (fun item member => ih item member (floats_of_mem_arr exact item member))
      exact
  | obj fields ih =>
    exact legible_obj (fun field member => ih field member (floats_of_mem_obj exact field member))
      exact

/-- Values without floating-point numbers are told apart by their texts. -/
theorem report_inj {v w : Json} (exact : v.floats = []) (exact' : w.floats = [])
    (same : v.report = w.report) : v = w := by
  have texts : v.pretty 2 0 ++ [] = w.pretty 2 0 ++ [] := by
    rw [List.append_nil, List.append_nil]
    exact String.ofList_injective same
  exact (legible_of_exact exact 0 w [] [] exact' (by simp [Ends]) (by simp [Ends]) texts).1

end ReadoutControl.Json
