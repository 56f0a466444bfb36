import ReadoutControl.Regex.Scanner

set_option autoImplicit false

/-!
What a reader takes from the front of a text does not depend on what comes after it. A closing
parenthesis ends whatever can be read before it, unless it falls into a comment that is still open.
-/

namespace ReadoutControl.Regex

variable {α β : Type}

/-- Takes something from the front of a text, if it can, and returns it with the rest. -/
abbrev Reader (α : Type) := List Char → Option (α × List Char)

/-- Text that nothing in front of it reaches into: none of its characters adds to what has been
read, ends a comment or closes a brace or a bracket. -/
def Inert (s : List Char) : Prop := ∀ c ∈ s, c = ')' ∨ c = '$'

/-- Text before which everything stops that goes on as long as characters are of some kind. -/
def Stops (s : List Char) : Prop := ∀ c, s.head? = some c → c = ')' ∨ c = '$'

theorem Inert.stops {s : List Char} (inert : Inert s) : Stops s :=
  fun c first => inert c (List.mem_of_mem_head? first)

theorem stops_of_closing {s : List Char} (closing : s.head? = some ')') : Stops s :=
  fun _ first => .inl (Option.some.inj (first.symm.trans closing))

/-- A text that does not begin with a character of some kind begins with another one or is empty. -/
theorem kind_or_not (p : Char → Bool) (cs : List Char) :
    (∃ c rest, cs = c :: rest ∧ p c = true) ∨ ∀ c, cs.head? = some c → p c = false := by
  cases cs with
  | nil => exact .inr fun _ here => nomatch here
  | cons c rest =>
    cases kind : p c with
    | true => exact .inl ⟨c, rest, rfl, kind⟩
    | false =>
      apply Or.inr
      intro d here
      rwa [← Option.some.inj here]

/-- Text that stops everything of a kind begins with nothing of it, wherever it is added. -/
theorem Stops.absent {p : Char → Bool} {cs s : List Char} (stops : Stops s)
    (plain : p ')' = false ∧ p '$' = false) (absent : ∀ c, cs.head? = some c → p c = false) :
    ∀ c, (cs ++ s).head? = some c → p c = false := by
  intro c here
  cases cs with
  | nil =>
    rcases stops c here with rfl | rfl
    · exact plain.1
    · exact plain.2
  | cons d rest => exact absent c here

/-- A reader that takes at least `least` characters of texts shorter than `n`. What it takes stays
the same when inert text is added, which is left or, in an open comment, taken too. It also stays
the same when text that begins with a closing parenthesis is cut off, if `spare` characters before
that are left. -/
structure Local (n least spare : Nat) (read : Reader α) : Prop where
  takes : ∀ {cs a r}, cs.length < n → read cs = some (a, r) →
    r <:+ cs ∧ r.length + least ≤ cs.length
  append : ∀ {cs a r s}, cs.length < n → Inert s → read cs = some (a, r) →
    read (cs ++ s) = some (a, r ++ s) ∨ (r = [] ∧ read (cs ++ s) = some (a, []))
  of_append : ∀ {cs a r s}, cs.length + s.length < n → s.head? = some ')' →
    read (cs ++ s) = some (a, r) → s.length + spare ≤ r.length →
      ∃ r₀, read cs = some (a, r₀) ∧ r = r₀ ++ s

namespace Local

variable {n least spare : Nat} {read : Reader α}

theorem mono {l t : Nat} (h : Local n least spare read) (less : l ≤ least) (more : spare ≤ t) :
    Local n l t read where
  takes within found := by
    obtain ⟨back, length⟩ := h.takes within found
    exact ⟨back, by omega⟩
  append within := h.append within
  of_append within closing found left := h.of_append within closing found (by omega)

/-- How much is taken need not matter. -/
theorem relax (h : Local n least spare read) : Local n 0 spare read :=
  h.mono (Nat.zero_le least) (Nat.le_refl spare)

/-- Text that need not be left may be left. -/
theorem withSpare (h : Local n least 0 read) : Local n least spare read :=
  h.mono (Nat.le_refl least) (Nat.zero_le spare)

/-- A family of readers that are local on longer texts if all of them are on shorter ones. -/
theorem recursion {ι : Type} {reads : ι → Reader α}
    (step : ∀ n, (∀ x, Local n least spare (reads x)) → ∀ x, Local (n + 1) least spare (reads x)) :
    ∀ n x, Local n least spare (reads x) := by
  intro n
  induction n with
  | zero =>
    intro x
    exact ⟨fun within => by omega, fun within => by omega, fun within => by omega⟩
  | succ n ih => exact step n ih

theorem congr {other : Reader α} (h : Local n least spare read)
    (same : ∀ cs, other cs = read cs) : Local n least spare other := by
  rw [funext same]
  exact h

theorem none : Local n least spare fun _ => (Option.none : Option (α × List Char)) where
  takes _ found := nomatch found
  append _ _ found := nomatch found
  of_append _ _ found := nomatch found

theorem pure (a : α) : Local n 0 0 fun cs => some (a, cs) where
  takes _ found := by
    obtain ⟨rfl, rfl⟩ := Prod.mk.inj (Option.some.inj found)
    exact ⟨List.suffix_refl _, Nat.le_refl _⟩
  append _ _ found := by
    obtain ⟨rfl, rfl⟩ := Prod.mk.inj (Option.some.inj found)
    exact .inl rfl
  of_append _ _ found _ := by
    obtain ⟨rfl, rfl⟩ := Prod.mk.inj (Option.some.inj found)
    exact ⟨_, rfl, rfl⟩

theorem value (x : Option α) : Local n 0 0 fun cs => x.map (·, cs) := by
  cases x with
  | none => exact none
  | some a => exact pure a

theorem ite {p : Prop} [Decidable p] {other : Reader α} (yes : Local n least spare read)
    (no : Local n least spare other) :
    Local n least spare fun cs => if p then read cs else other cs := by
  by_cases h : p
  · simpa only [h, if_true] using yes
  · simpa only [h, if_false] using no

/-- One reader after another. What the second takes counts as spare for the first. -/
theorem bind {l t : Nat} {next : α → Reader β} (first : Local n least spare read)
    (second : ∀ a, Local n l t (next a)) (enough : spare ≤ l + t) :
    Local n (least + l) t fun cs => (read cs).bind fun p => next p.1 p.2 where
  takes {cs b r} within found := by
    obtain ⟨⟨a, middle⟩, before, after⟩ := Option.bind_eq_some_iff.mp found
    obtain ⟨front, firstLength⟩ := first.takes within before
    obtain ⟨back, secondLength⟩ := (second a).takes (by simp only; omega) after
    simp only at back secondLength
    exact ⟨back.trans front, by omega⟩
  append {cs b r s} within inert found := by
    obtain ⟨⟨a, middle⟩, before, after⟩ := Option.bind_eq_some_iff.mp found
    have shorter : middle.length < n := by
      have := (first.takes within before).2
      omega
    rcases first.append within inert before with kept | ⟨rfl, taken⟩
    · rcases (second a).append shorter inert after with left | ⟨rfl, taken⟩
      · exact .inl (Option.bind_eq_some_iff.mpr ⟨_, kept, left⟩)
      · exact .inr ⟨rfl, Option.bind_eq_some_iff.mpr ⟨_, kept, taken⟩⟩
    · obtain rfl : r = [] := List.suffix_nil.mp ((second a).takes shorter after).1
      exact .inr ⟨rfl, Option.bind_eq_some_iff.mpr ⟨_, taken, after⟩⟩
  of_append {cs b r s} within closing found left := by
    obtain ⟨⟨a, middle⟩, before, after⟩ := Option.bind_eq_some_iff.mp found
    have shorter : middle.length < n := by
      have := (first.takes (by simpa using within) before).2
      rw [List.length_append] at this
      omega
    -- The second reader leaves `r`, so the first has left at least as much and what the second takes.
    have ended : r.length + l ≤ middle.length := ((second a).takes shorter after).2
    obtain ⟨rest, kept, rfl⟩ := first.of_append within closing before (by omega)
    rw [List.length_append] at shorter
    obtain ⟨r₀, last, same⟩ := (second a).of_append shorter closing after left
    exact ⟨r₀, Option.bind_eq_some_iff.mpr ⟨_, kept, last⟩, same⟩

theorem bindValue (h : Local n least spare read) (g : α → Option β) :
    Local n least spare fun cs => (read cs).bind fun p => (g p.1).map (·, p.2) :=
  h.bind (fun a => (value (g a)).withSpare)
    (Nat.le_add_left spare 0)

theorem map (h : Local n least spare read) (g : α → β) :
    Local n least spare fun cs => (read cs).map fun p => (g p.1, p.2) := by
  have same : (fun cs => (read cs).map fun p => (g p.1, p.2)) =
      fun cs => (read cs).bind fun p => (some (g p.1)).map (·, p.2) := by
    funext cs
    rw [Option.map_eq_bind]
    rfl
  rw [same]
  exact h.bindValue fun a => some (g a)

/-- A reader that needs a character may be looked at after that character. -/
theorem of_cons (empty : read [] = Option.none)
    (each : ∀ c, Local (n - 1) least spare fun rest => read (c :: rest)) :
    Local n (least + 1) spare read where
  takes {cs a r} within found := by
    cases cs with
    | nil => exact nomatch empty.symm.trans found
    | cons c rest =>
      rw [List.length_cons] at within ⊢
      obtain ⟨back, length⟩ := (each c).takes (by omega) found
      exact ⟨back.trans (List.suffix_cons c rest), by omega⟩
  append {cs a r s} within inert found := by
    cases cs with
    | nil => exact nomatch empty.symm.trans found
    | cons c rest =>
      rw [List.length_cons] at within
      exact (each c).append (by omega) inert found
  of_append {cs a r s} within closing found left := by
    cases cs with
    | nil =>
      cases s with
      | nil => exact nomatch closing
      | cons c rest =>
        rw [List.length_cons] at within left
        have := ((each c).takes (by omega) found).2
        omega
    | cons c rest =>
      rw [List.length_cons] at within
      exact (each c).of_append (by omega) closing found left

theorem cons (h : Local (n + 1) (least + 1) spare read) (c : Char) :
    Local n least spare fun rest => read (c :: rest) where
  takes {cs a r} within found := by
    obtain ⟨back, length⟩ := h.takes (by rw [List.length_cons]; omega) found
    rw [List.length_cons] at length
    refine ⟨(List.suffix_cons_iff.mp back).resolve_left ?_, by omega⟩
    rintro rfl
    rw [List.length_cons] at length
    omega
  append within inert found := h.append (by rw [List.length_cons]; omega) inert found
  of_append within closing found left :=
    h.of_append (by rw [List.length_cons]; omega) closing found left

/-- A reader that looks for a character of some kind, neither a closing parenthesis nor a dollar sign,
and goes on as another reader where it does not find one. -/
theorem onKind {p : Char → Bool} {other : Reader α} (plain : p ')' = false ∧ p '$' = false)
    (yes : ∀ c, p c = true → Local (n - 1) (least - 1) spare fun rest => read (c :: rest))
    (no : Local n least spare other)
    (otherwise : ∀ cs, (∀ c, cs.head? = some c → p c = false) → read cs = other cs) :
    Local n least spare read where
  takes {cs a r} within found := by
    rcases kind_or_not p cs with ⟨c, rest, rfl, kind⟩ | absent
    · rw [List.length_cons] at within ⊢
      obtain ⟨back, length⟩ := (yes c kind).takes (by omega) found
      exact ⟨back.trans (List.suffix_cons c rest), by omega⟩
    · rw [otherwise cs absent] at found
      exact no.takes within found
  append {cs a r s} within inert found := by
    rcases kind_or_not p cs with ⟨c, rest, rfl, kind⟩ | absent
    · rw [List.length_cons] at within
      exact (yes c kind).append (by omega) inert found
    · rw [otherwise cs absent] at found
      rw [otherwise _ (inert.stops.absent plain absent)]
      exact no.append within inert found
  of_append {cs a r s} within closing found left := by
    rcases kind_or_not p cs with ⟨c, rest, rfl, kind⟩ | absent
    · rw [List.length_cons] at within
      exact (yes c kind).of_append (by omega) closing found left
    · rw [otherwise cs absent]
      rw [otherwise _ ((stops_of_closing closing).absent plain absent)] at found
      exact no.of_append within closing found left

/-- A reader that looks for one character. -/
theorem onHead {c : Char} {other : Reader α} (plain : c ≠ ')' ∧ c ≠ '$')
    (yes : Local (n - 1) (least - 1) spare fun rest => read (c :: rest))
    (no : Local n least spare other)
    (otherwise : ∀ cs, cs.head? ≠ some c → read cs = other cs) : Local n least spare read := by
  refine onKind (p := (· == c)) ⟨beq_false_of_ne plain.1.symm, beq_false_of_ne plain.2.symm⟩
    ?_ no ?_
  · intro d same
    obtain rfl := eq_of_beq same
    exact yes
  · intro cs others
    apply otherwise cs
    intro here
    exact ne_of_beq_false (others c here) rfl

/-- Two readers, one of which is chosen by what comes. The choice may depend on what is added only
where the reader then goes beyond the text before it. -/
theorem lookAhead {look : List Char → Prop} [DecidablePred look] {other : Reader α}
    (yes : Local n least spare read) (no : Local n least spare other)
    (inert : ∀ {cs s}, Inert s → (look (cs ++ s) ↔ look cs))
    (kept : ∀ {cs s}, s.head? = some ')' → look cs → look (cs ++ s))
    (beyond : ∀ {cs s a r}, s.head? = some ')' → ¬ look cs → look (cs ++ s) →
      read (cs ++ s) = some (a, r) → r.length < s.length + spare) :
    Local n least spare fun cs => if look cs then read cs else other cs where
  takes {cs a r} within found := by
    by_cases chosen : look cs
    · exact yes.takes within (by simpa only [chosen, if_true] using found)
    · exact no.takes within (by simpa only [chosen, if_false] using found)
  append {cs a r s} within quiet found := by
    have same : look (cs ++ s) ↔ look cs := inert quiet
    by_cases chosen : look cs
    · simp only [same, chosen, if_true] at found ⊢
      exact yes.append within quiet found
    · simp only [same, chosen, if_false] at found ⊢
      exact no.append within quiet found
  of_append {cs a r s} within closing found left := by
    by_cases chosen : look cs
    · simp only [chosen, kept closing chosen, if_true] at found ⊢
      exact yes.of_append within closing found left
    · by_cases later : look (cs ++ s)
      · simp only [later, if_true] at found
        have := beyond closing chosen later found
        omega
      · simp only [later, chosen, if_false] at found ⊢
        exact no.of_append within closing found left

/-- A reader that goes on if another one succeeds, and else is left to a third. -/
theorem orElse {l t : Nat} {next : α → Reader β} {other : Reader β}
    (first : Local n least spare read) (second : ∀ a, Local n l t (next a)) (enough : spare ≤ l + t)
    (third : Local n (least + l) t other)
    (kept : ∀ {cs s p}, read cs = some p → ∃ q, read (cs ++ s) = some q)
    (inert : ∀ {cs s}, Inert s → read cs = Option.none → read (cs ++ s) = Option.none) :
    Local n (least + l) t fun cs =>
      match read cs with
      | some p => next p.1 p.2
      | .none => other cs := by
  have both := first.bind second enough
  refine ⟨fun {cs b r} within found => ?_, fun {cs b r s} within quiet found => ?_,
    fun {cs b r s} within closing found left => ?_⟩
  · cases here : read cs with
    | none => exact third.takes within (by simpa only [here] using found)
    | some p => exact both.takes within (by simpa only [here, Option.bind_some] using found)
  · cases here : read cs with
    | none =>
      simp only [here, inert quiet here] at found ⊢
      exact third.append within quiet found
    | some p =>
      obtain ⟨q, there⟩ := kept (s := s) here
      have := both.append within quiet (by simpa only [here, Option.bind_some] using found)
      simpa only [there, Option.bind_some] using this
  · cases there : read (cs ++ s) with
    | none =>
      -- The first reader fails on the shorter text too, since it is not bothered by what is added.
      have here : read cs = Option.none := by
        rw [Option.eq_none_iff_forall_not_mem]
        intro p found
        obtain ⟨q, later⟩ := kept (s := s) found
        exact nomatch there.symm.trans later
      simp only [here, there] at found ⊢
      exact third.of_append within closing found left
    | some q =>
      obtain ⟨r₀, before, same⟩ := both.of_append within closing
        (by simpa only [there, Option.bind_some] using found) left
      refine ⟨r₀, ?_, same⟩
      cases here : read cs with
      | none =>
        rw [here] at before
        exact nomatch before
      | some p => simpa only [here, Option.bind_some] using before

/-- A reader after something that means nothing. -/
theorem dropped {drop : List Char → List Char} (drops : Local n 0 0 fun cs => some ((), drop cs))
    (h : Local n least spare read) : Local n least spare fun cs => read (drop cs) := by
  have after := drops.bind (fun _ => h) (Nat.zero_le _)
  rwa [Nat.zero_add] at after

end Local

/-- A reader that cannot fail and takes the same before all text that stops it. -/
theorem Local.of_stops {n : Nat} {read : List Char → α × List Char}
    (takes : ∀ cs, (read cs).2 <:+ cs)
    (added : ∀ cs s, Stops s → read (cs ++ s) = ((read cs).1, (read cs).2 ++ s)) :
    Local n 0 0 fun cs => some (read cs) where
  takes {cs a r} _ found := by
    obtain rfl : (read cs).2 = r := congrArg Prod.snd (Option.some.inj found)
    exact ⟨takes cs, (takes cs).length_le⟩
  append {cs a r s} _ inert found := by
    rw [added cs s inert.stops, Option.some.inj found]
    exact .inl rfl
  of_append {cs a r s} _ closing found _ := by
    rw [added cs s (stops_of_closing closing)] at found
    obtain ⟨rfl, rfl⟩ := Prod.mk.inj (Option.some.inj found)
    exact ⟨_, rfl, rfl⟩

end ReadoutControl.Regex
