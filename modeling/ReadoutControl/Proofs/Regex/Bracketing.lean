import ReadoutControl.Regex.Parser
import ReadoutControl.Proofs.Regex.Scanning

set_option autoImplicit false

/-!
Reading bracketed sets is local too. The loop over the parts of nested brackets is taken apart into
single parts, of which each takes at least a character, so that its fuel does not matter.
-/

namespace ReadoutControl.Regex.SetItem

variable {n : Nat}

section AsciiClasses

/-- Whether a named class is negated. -/
def negation : List Char → Bool × List Char
  | '^' :: rest => (true, rest)
  | cs => (false, cs)

theorem negation_suffix (cs : List Char) : (negation cs).2 <:+ cs := by
  unfold negation
  split
  · exact List.suffix_cons ..
  · exact List.suffix_refl _

theorem negation_cons_append (c : Char) (rest s : List Char) :
    negation (c :: rest ++ s) = ((negation (c :: rest)).1, (negation (c :: rest)).2 ++ s) := by
  by_cases caret : c = '^'
  · subst caret
    rfl
  · simp [negation, caret]

theorem negation_append (cs : List Char) {s : List Char} (stops : Stops s) :
    negation (cs ++ s) = ((negation cs).1, (negation cs).2 ++ s) := by
  cases cs with
  | nil =>
    cases s with
    | nil => rfl
    | cons c rest => rcases stops c rfl with rfl | rfl <;> rfl
  | cons c rest => exact negation_cons_append c rest s

/-- Reads the name of a class up to the end of its bracket. -/
def className (negated : Bool) : Reader SetItem := fun cs =>
  (upTo ':' cs).bind fun p => (mark ']' () p.2).bind fun q =>
    ((asciiClasses.lookup (String.ofList p.1)).map (SetItem.ascii negated)).map (·, q.2)

theorem local_className (negated : Bool) : Local n 1 0 (className negated) := by
  have closed (name : List Char) : Local n 1 0 fun cs => (mark ']' () cs).bind fun q =>
      ((asciiClasses.lookup (String.ofList name)).map (SetItem.ascii negated)).map (·, q.2) :=
    (local_mark ']' ()).bindValue fun _ => _
  exact ((local_upTo ':').bind closed (Nat.zero_le _)).mono (by decide) (Nat.le_refl 0)

theorem className_append {negated : Bool} {cs : List Char} {item : SetItem} {r : List Char}
    (s : List Char) (found : className negated cs = some (item, r)) :
    className negated (cs ++ s) = some (item, r ++ s) := by
  obtain ⟨⟨name, rest⟩, reached, found⟩ := Option.bind_eq_some_iff.mp found
  unfold className
  rw [upTo_append s reached, Option.bind_some]
  obtain ⟨⟨_, after⟩, closed, found⟩ := Option.bind_eq_some_iff.mp found
  obtain ⟨value, known, same⟩ := Option.map_eq_some_iff.mp found
  obtain ⟨rfl, rfl⟩ := Prod.mk.inj same
  rw [mark_append s closed, Option.bind_some, known]
  rfl

theorem className_append_none {negated : Bool} {cs s : List Char} (inert : Inert s)
    (missing : className negated cs = none) : className negated (cs ++ s) = none := by
  unfold className at missing ⊢
  cases reached : upTo ':' cs with
  | none =>
    have absent : ':' ∉ s := fun member => by simpa using inert ':' member
    rw [upTo_append_none absent reached]
    rfl
  | some p =>
    obtain ⟨name, rest⟩ := p
    rw [reached, Option.bind_some] at missing
    rw [upTo_append s reached, Option.bind_some]
    cases closed : mark ']' () rest with
    | none =>
      have absent : s.head? ≠ some ']' := fun first => by
        simpa using inert ']' (List.mem_of_mem_head? first)
      rw [mark_append_none absent closed]
      rfl
    | some q =>
      rw [closed, Option.bind_some, Option.map_eq_none_iff] at missing
      rw [mark_append s closed, Option.bind_some, missing]
      rfl

theorem className_eq (negated : Bool) (cs : List Char) :
    className negated cs =
      match cs.dropWhile (· ≠ ':') with
      | ':' :: ']' :: after =>
        (asciiClasses.lookup (String.ofList (cs.takeWhile (· ≠ ':')))).map fun name =>
          (.ascii negated name, after)
      | _ => none := by
  unfold className upTo
  have head := List.head?_dropWhile_not (· ≠ ':') cs
  cases reached : cs.dropWhile (· ≠ ':') with
  | nil => rfl
  | cons c after =>
    rw [reached] at head
    obtain rfl : c = ':' := by simpa using head
    cases after with
    | nil => rfl
    | cons d after =>
      by_cases bracket : d = ']'
      · subst bracket
        simp only [Option.bind_some, mark, if_true]
        cases asciiClasses.lookup _ <;> rfl
      · simp [mark, bracket]

theorem asciiClass?_cons (c : Char) (rest : List Char) :
    asciiClass? (c :: rest) =
      if c = ':' then className (negation rest).1 (negation rest).2 else none := by
  by_cases colon : c = ':'
  · subst colon
    rw [if_pos rfl, className_eq]
    rfl
  · rw [if_neg colon]
    unfold asciiClass?
    split
    · next same => exact (colon (List.cons.inj same).1).elim
    · rfl

theorem local_asciiClass? : Local n 1 0 asciiClass? := by
  refine .of_cons rfl fun c => ?_
  simp only [asciiClass?_cons]
  have named : Local (n - 1) 0 0 fun rest => (some (negation rest)).bind fun p => className p.1 p.2 :=
    ((Local.of_stops negation_suffix fun cs _ stops => negation_append cs stops).bind
      local_className (Nat.zero_le _)).relax
  exact .ite named .none

/-- What follows a named class does not matter. -/
theorem asciiClass?_append {cs : List Char} {item : SetItem} {r : List Char} (s : List Char)
    (found : asciiClass? cs = some (item, r)) : asciiClass? (cs ++ s) = some (item, r ++ s) := by
  cases cs with
  | nil => exact nomatch found
  | cons c rest =>
    rw [asciiClass?_cons] at found
    rw [List.cons_append, asciiClass?_cons]
    obtain ⟨colon, found⟩ := Option.ite_none_right_eq_some.mp found
    rw [if_pos colon]
    cases rest with
    | nil => exact nomatch found
    | cons d rest =>
      rw [negation_cons_append]
      exact className_append s found

/-- Text that has neither a colon nor a bracket makes no class of what is none. -/
theorem asciiClass?_append_none {cs s : List Char} (inert : Inert s)
    (missing : asciiClass? cs = none) : asciiClass? (cs ++ s) = none := by
  cases cs with
  | nil =>
    cases s with
    | nil => rfl
    | cons c rest => rcases inert c (List.mem_cons_self ..) with rfl | rfl <;> rfl
  | cons c rest =>
    rw [asciiClass?_cons] at missing
    rw [List.cons_append, asciiClass?_cons]
    by_cases colon : c = ':'
    · rw [if_pos colon] at missing ⊢
      rw [negation_append rest inert.stops]
      exact className_append_none inert missing
    · rw [if_neg colon]

end AsciiClasses

section Openings

theorem leadingHyphens?_of_head {free : Bool} {items : List SetItem} {cs : List Char}
    (other : cs.head? ≠ some '-') (fuel : Nat) :
    leadingHyphens? free fuel items cs = some (items, cs) := by
  unfold leadingHyphens?
  split
  · exact (other rfl).elim
  · rfl

theorem leadingHyphens?_fuel (free : Bool) {fuel more : Nat} {items : List SetItem}
    {cs : List Char} (enough : cs.length ≤ fuel) (also : cs.length ≤ more) :
    leadingHyphens? free fuel items cs = leadingHyphens? free more items cs := by
  induction fuel generalizing more items cs with
  | zero =>
    obtain rfl := List.length_eq_zero_iff.mp (Nat.le_zero.mp enough)
    rw [leadingHyphens?_of_head (by simp), leadingHyphens?_of_head (by simp)]
  | succ fuel ih =>
    by_cases hyphen : cs.head? = some '-'
    · obtain ⟨rest, rfl⟩ := List.head?_eq_some_iff.mp hyphen
      rw [List.length_cons] at enough also
      obtain ⟨more, rfl⟩ : ∃ m, more = m + 1 := ⟨more - 1, by omega⟩
      simp only [leadingHyphens?]
      apply Option.bind_congr
      intro after found
      have := advance?_length found
      exact ih (by omega) (by omega)
    · rw [leadingHyphens?_of_head hyphen, leadingHyphens?_of_head hyphen]

/-- Reads leading hyphens, as many as there are. -/
def hyphens (free : Bool) (items : List SetItem) : Reader (List SetItem) := fun cs =>
  leadingHyphens? free cs.length items cs

theorem hyphens_hyphen (free : Bool) (items : List SetItem) (rest : List Char) :
    hyphens free items ('-' :: rest) =
      (advance? free rest).bind (hyphens free (.literal ⟨'-', false⟩ :: items)) := by
  simp only [hyphens, List.length_cons, leadingHyphens?]
  apply Option.bind_congr
  intro after found
  exact leadingHyphens?_fuel free (advance?_length found) (Nat.le_refl _)

theorem local_hyphens (free : Bool) (items : List SetItem) : Local n 0 1 (hyphens free items) := by
  refine Local.recursion (fun m shorter items => ?_) n items
  have after : Local m 0 1 fun rest => hyphens free items ('-' :: rest) :=
    (local_advance? free (shorter (.literal ⟨'-', false⟩ :: items)) (Nat.le_refl 1)).congr
      (hyphens_hyphen free items)
  exact .onHead (by decide) after (Local.pure items).withSpare fun _ other =>
    leadingHyphens?_of_head other _

/-- Reads the mark that negates a bracket. -/
def caret (free : Bool) : Reader Bool
  | '^' :: rest => (advance? free rest).bind fun rest => some (true, rest)
  | cs => some (false, cs)

theorem caret_of_head {free : Bool} {cs : List Char} (other : cs.head? ≠ some '^') :
    caret free cs = some (false, cs) := by
  unfold caret
  split
  · exact (other rfl).elim
  · rfl

theorem local_caret (free : Bool) : Local n 0 1 (caret free) := by
  have kept (negated : Bool) : ∀ m, Local m 0 1 fun cs => some (negated, cs) := fun m =>
    (Local.pure negated).withSpare
  have after : Local (n - 1) 0 1 fun rest => caret free ('^' :: rest) :=
    local_advance? free (kept true _) (Nat.le_refl 1)
  exact .onHead (by decide) after (kept false n) fun _ other => caret_of_head other

/-- Reads a closing bracket that stands for itself, as the first one. -/
def firstItems (free negated : Bool) : List SetItem → Reader (Bool × List SetItem)
  | [], ']' :: rest =>
    (advance? free rest).bind fun rest => some ((negated, [.literal ⟨']', false⟩]), rest)
  | items, cs => some ((negated, items), cs)

theorem local_firstItems (free negated : Bool) (items : List SetItem) :
    Local n 0 1 (firstItems free negated items) := by
  have kept (items : List SetItem) : ∀ m, Local m 0 1 fun cs => some ((negated, items), cs) :=
    fun m => (Local.pure (negated, items)).withSpare
  cases items with
  | cons item items => exact kept (item :: items) n
  | nil =>
    have after : Local (n - 1) 0 1 fun rest => firstItems free negated [] (']' :: rest) :=
      local_advance? free (kept _ _) (Nat.le_refl 1)
    refine .onHead (by decide) after (kept [] n) fun cs other => ?_
    unfold firstItems
    split
    · exact (other rfl).elim
    · rfl

/-- Reads the start of a bracket. -/
def openingText (free : Bool) : Reader (Bool × List SetItem) := fun cs =>
  (opening? free cs).map fun p => ((p.1, p.2.1), p.2.2)

theorem openingText_eq (free : Bool) (cs : List Char) :
    openingText free cs = (advance? free cs).bind fun cs => (caret free cs).bind fun p =>
      (hyphens free [] p.2).bind fun q => firstItems free p.1 q.1 q.2 := by
  unfold openingText opening?
  cases advance? free cs with
  | none => rfl
  | some text =>
    simp only [Option.bind_eq_bind, Option.bind_some]
    have opened (negated : Bool) (cs : List Char) :
        ((leadingHyphens? free cs.length [] cs).bind fun p =>
          match p.1, p.2 with
          | [], ']' :: rest => (advance? free rest).bind fun rest =>
              some (negated, [SetItem.literal ⟨']', false⟩], rest)
          | items, cs => some (negated, items, cs)).map (fun p => ((p.1, p.2.1), p.2.2)) =
        (hyphens free [] cs).bind fun q => firstItems free negated q.1 q.2 := by
      unfold hyphens
      cases leadingHyphens? free cs.length [] cs with
      | none => rfl
      | some p =>
        obtain ⟨items, rest⟩ := p
        simp only [Option.bind_some]
        unfold firstItems
        split
        · next rest => cases advance? free rest <;> rfl
        · rfl
    split
    · next rest =>
      rw [caret]
      cases advance? free rest with
      | none => rfl
      | some rest => exact opened true rest
    · next other =>
      rw [caret_of_head fun first => by
        obtain ⟨rest, rfl⟩ := List.head?_eq_some_iff.mp first
        exact other rest rfl]
      exact opened false text

theorem local_openingText (free : Bool) : Local n 0 1 (openingText free) := by
  have start (negated : Bool) : Local n 0 1 fun cs =>
      (hyphens free [] cs).bind fun q => firstItems free negated q.1 q.2 :=
    (local_hyphens free []).bind (local_firstItems free negated) (Nat.le_refl 1)
  have whole : Local n 0 1 fun cs => (caret free cs).bind fun p =>
      (hyphens free [] p.2).bind fun q => firstItems free p.1 q.1 q.2 :=
    (local_caret free).bind start (Nat.le_refl 1)
  exact (local_advance? free whole (Nat.le_refl 1)).congr (openingText_eq free)

end Openings

section Ranges

theorem itemPrimitive?_cons {c : Char} (other : c ≠ '\\') (free : Bool) (rest : List Char) :
    itemPrimitive? free (c :: rest) = some (.literal ⟨c, false⟩, rest) := by
  unfold itemPrimitive?
  split
  · contradiction
  · next same => exact (other (List.cons.inj same).1).elim
  · next same =>
    obtain ⟨rfl, rfl⟩ := List.cons.inj same
    rfl

theorem local_itemPrimitive? (free : Bool) : Local n 1 0 (itemPrimitive? free) := by
  refine .of_cons rfl fun c => ?_
  by_cases slash : c = '\\'
  · subst slash
    exact (local_escape? free).relax
  · exact (Local.pure _).congr (itemPrimitive?_cons slash free)

theorem peek?_append (free : Bool) (cs : List Char) {s : List Char} (stops : Stops s) :
    peek? free (cs ++ s) = (peek? free cs).or s.head? := by
  unfold peek?
  cases free with
  | false => exact List.head?_append
  | true =>
    simp only [if_true]
    rw [dropWhile_append_of_stops rfl rfl cs stops]
    cases cs.dropWhile Text.isBlank with
    | nil =>
      cases s with
      | nil => rfl
      | cons c rest => rcases stops c rfl with rfl | rfl <;> rfl
    | cons d rest =>
      by_cases comment : d = '#'
      · subst comment
        simp only [List.cons_append]
        rw [dropWhile_append_of_stops rfl rfl rest stops, List.head?_append]
      · simp [comment]

/-- Whether a hyphen comes that goes on to the end of a range. -/
def spans (free : Bool) : List Char → Bool
  | '-' :: more => !(peek? free more = some ']' ∨ peek? free more = some '-')
  | _ => false

theorem spans_of_head {free : Bool} {cs : List Char} (other : cs.head? ≠ some '-') :
    spans free cs = false := by
  unfold spans
  split
  · exact (other rfl).elim
  · rfl

theorem spans_append (free : Bool) (cs : List Char) {s : List Char} (stops : Stops s) :
    spans free (cs ++ s) = spans free cs := by
  cases cs with
  | nil =>
    refine spans_of_head fun hyphen => ?_
    rcases stops _ hyphen with same | same <;> simp at same
  | cons c more =>
    by_cases hyphen : c = '-'
    · subst hyphen
      simp only [List.cons_append, spans, peek?_append free more stops]
      cases peek? free more with
      | some d => rfl
      | none =>
        cases s with
        | nil => rfl
        | cons d rest => rcases stops d rfl with rfl | rfl <;> rfl
    · rw [spans_of_head (by simpa using hyphen), spans_of_head (by simpa using hyphen)]

/-- The item of a range, if both ends are characters and in order. -/
def rangeOf? (first last : Primitive) : Option SetItem :=
  match first, last with
  | .literal low, .literal high =>
    if low.char.toNat ≤ high.char.toNat then some (.range low high) else none
  | _, _ => none

theorem rangeOf?_map (first last : Primitive) (after : List Char) :
    (match first, last with
      | .literal low, .literal high =>
        if low.char.toNat ≤ high.char.toNat then some (SetItem.range low high, after) else none
      | _, _ => none) = (rangeOf? first last).map (·, after) := by
  unfold rangeOf?
  split
  · split <;> rfl
  · rfl

/-- Reads the end of a range after its hyphen. -/
def toLast (free : Bool) (first : Primitive) : Reader SetItem
  | [] => none
  | _ :: more => (advance? free more).bind fun more => (itemPrimitive? free more).bind fun p =>
      (rangeOf? first p.1).map (·, p.2)

theorem local_toLast (free : Bool) (first : Primitive) : Local n 1 0 (toLast free first) := by
  refine .of_cons rfl fun _ => ?_
  exact (local_advance? free ((local_itemPrimitive? free).bindValue (rangeOf? first))
    (Nat.le_refl 1)).relax

/-- Reads what follows the first character of an item. -/
def afterFirst (free : Bool) (first : Primitive) : Reader SetItem := fun cs =>
  if spans free cs then toLast free first cs
  else (if cs = [] then none else some ((), cs)).bind fun p => (ofPrimitive? first).map (·, p.2)

theorem local_afterFirst (free : Bool) (first : Primitive) :
    Local n 0 1 (afterFirst free first) := by
  have longer : Local n 0 1 (toLast free first) := (local_toLast free first).relax.withSpare
  have alone : Local n 0 1 fun cs =>
      (if cs = [] then none else some ((), cs)).bind fun p => (ofPrimitive? first).map (·, p.2) :=
    (local_nonempty ()).bindValue fun _ => ofPrimitive? first
  refine .lookAhead longer alone ?_ ?_ ?_
  · intro cs s inert
    rw [spans_append free cs inert.stops]
  · intro cs s closing yes
    rwa [spans_append free cs (stops_of_closing closing)]
  · intro cs s a r closing no yes
    rw [spans_append free cs (stops_of_closing closing)] at yes
    exact (no yes).elim

theorem range?_eq (free : Bool) (cs : List Char) :
    range? free cs =
      (itemPrimitive? free cs).bind fun p => afterFirst free p.1 (dropFree free p.2) := by
  unfold range?
  cases itemPrimitive? free cs with
  | none => rfl
  | some p =>
    obtain ⟨first, rest⟩ := p
    simp only [Option.bind_eq_bind, Option.bind_some]
    split
    · next ended => rw [ended]; rfl
    · next more text =>
      rw [text]
      by_cases alone : peek? free more = some ']' ∨ peek? free more = some '-'
      · simp only [alone, afterFirst, spans, if_true, decide_true, Bool.not_true,
          Bool.false_eq_true, if_false]
        cases ofPrimitive? first <;> rfl
      · simp only [alone, afterFirst, spans, if_true, decide_false, Bool.not_false, if_false,
          toLast]
        cases advance? free more with
        | none => rfl
        | some more =>
          simp only [Option.bind_some]
          cases itemPrimitive? free more with
          | none => rfl
          | some q =>
            obtain ⟨last, after⟩ := q
            exact rangeOf?_map first last after
    · next ended hyphen =>
      have other : (dropFree free rest).head? ≠ some '-' := by
        intro first
        obtain ⟨more, text⟩ := List.head?_eq_some_iff.mp first
        exact hyphen more text
      simp only [afterFirst, spans_of_head other, Bool.false_eq_true, if_false]
      rw [if_neg ended]
      cases ofPrimitive? first <;> rfl

theorem local_range? (free : Bool) : Local n 1 1 (range? free) := by
  have after (first : Primitive) : Local n 0 1 fun cs => afterFirst free first (dropFree free cs) :=
    (local_dropFree free).dropped (local_afterFirst free first)
  exact ((local_itemPrimitive? free).bind after (Nat.zero_le _)).congr (range?_eq free)

end Ranges

section Brackets

/-- Brackets that are open, the innermost first, and the items of that one in reverse order. -/
abbrev Nesting := List Open × List SetItem

/-- Begins the right side of an operation. -/
def operation (nesting : Nesting) (kind : SetOp) : Nesting :=
  let (left, outer) := closeOperand nesting.1 (ofItems nesting.2)
  (.operand kind left :: outer, [])

/-- Reads one part of a bracket, other than its end. -/
def part? (free : Bool) (nesting : Nesting) : Reader Nesting
  | '[' :: rest =>
    match asciiClass? rest with
    | some p => some ((nesting.1, p.1 :: nesting.2), p.2)
    | none =>
      (openingText free rest).map fun p => ((.bracket nesting.2 p.1.1 :: nesting.1, p.1.2), p.2)
  | '&' :: '&' :: rest => some (operation nesting .intersection, rest)
  | '-' :: '-' :: rest => some (operation nesting .difference, rest)
  | '~' :: '~' :: rest => some (operation nesting .symmetricDifference, rest)
  | cs => (range? free cs).map fun p => ((nesting.1, p.1 :: nesting.2), p.2)

theorem part?_item {free : Bool} {nesting : Nesting} {c : Char} {cs : List Char}
    (bracket : c ≠ '[') (single : c ∈ ['&', '-', '~'] → cs.head? ≠ some c) :
    part? free nesting (c :: cs) =
      (range? free (c :: cs)).map fun p => ((nesting.1, p.1 :: nesting.2), p.2) := by
  unfold part?
  split
  · next same => exact (bracket (List.cons.inj same).1).elim
  · next same =>
    obtain ⟨rfl, rfl⟩ := List.cons.inj same
    exact (single (by simp) rfl).elim
  · next same =>
    obtain ⟨rfl, rfl⟩ := List.cons.inj same
    exact (single (by simp) rfl).elim
  · next same =>
    obtain ⟨rfl, rfl⟩ := List.cons.inj same
    exact (single (by simp) rfl).elim
  · rfl

theorem local_part? (free : Bool) (nesting : Nesting) : Local n 1 1 (part? free nesting) := by
  refine .of_cons rfl fun c => ?_
  have item : Local (n - 1) 0 1 fun rest =>
      (range? free (c :: rest)).map fun p => ((nesting.1, p.1 :: nesting.2), p.2) :=
    ((local_range? free).cons c).map fun item => (nesting.1, item :: nesting.2)
  have operator (kind : SetOp) (plain : c ≠ '[' ∧ c ≠ ')' ∧ c ≠ '$')
      (twice : ∀ rest, part? free nesting (c :: c :: rest) = some (operation nesting kind, rest)) :
      Local (n - 1) 0 1 fun rest => part? free nesting (c :: rest) :=
    .onHead plain.2 ((Local.pure (operation nesting kind)).congr twice).withSpare item
      fun _ other => part?_item plain.1 fun _ => other
  by_cases bracket : c = '['
  · subst bracket
    have named : Local (n - 1) 0 0 asciiClass? :=
      local_asciiClass?.relax
    have inner : Local (n - 1) 0 1 fun rest => (openingText free rest).map fun p =>
        ((Open.bracket nesting.2 p.1.1 :: nesting.1, p.1.2), p.2) :=
      (local_openingText free).map fun p => (Open.bracket nesting.2 p.1 :: nesting.1, p.2)
    have either := named.orElse
      (fun item => (Local.pure (nesting.1, item :: nesting.2)).withSpare) (Nat.zero_le _) inner
      (fun {_ s _} found => ⟨_, asciiClass?_append s found⟩) asciiClass?_append_none
    refine either.congr fun rest => ?_
    simp only [part?]
    cases asciiClass? rest <;> rfl
  · by_cases special : c ∈ ['&', '-', '~']
    · simp only [List.mem_cons, List.not_mem_nil, or_false] at special
      rcases special with rfl | rfl | rfl
      · exact operator .intersection (by decide) (fun _ => rfl)
      · exact operator .difference (by decide) (fun _ => rfl)
      · exact operator .symmetricDifference (by decide) (fun _ => rfl)
    · exact item.congr fun rest => part?_item bracket fun here => (special here).elim

/-- Ends a bracket: it is what was to be read, or it goes into the one around it. -/
def endBracket? (nesting : Nesting) : Option ((Bool × SetItem) ⊕ Nesting) :=
  match closeOperand nesting.1 (ofItems nesting.2) with
  | (item, [.bracket _ negated]) => some (.inl (negated, item))
  | (item, .bracket outer negated :: stack) =>
    some (.inr (stack, .bracketed negated item :: outer))
  | _ => none

theorem brackets?_part {free : Bool} {c : Char} {cs rest : List Char}
    (text : dropFree free cs = c :: rest) (inside : c ≠ ']') (fuel : Nat) (nesting : Nesting) :
    brackets? free (fuel + 1) nesting.1 nesting.2 cs =
      (part? free nesting (c :: rest)).bind fun p => brackets? free fuel p.1.1 p.1.2 p.2 := by
  rw [brackets?]
  simp only [text]
  split
  · contradiction
  · next same =>
    obtain ⟨rfl, rfl⟩ := List.cons.inj same
    simp only [part?]
    cases asciiClass? rest with
    | some p => rfl
    | none =>
      simp only [openingText]
      cases opening? free rest <;> rfl
  · next same => exact (inside (List.cons.inj same).1).elim
  · next same =>
    obtain ⟨rfl, rfl⟩ := List.cons.inj same
    rfl
  · next same =>
    obtain ⟨rfl, rfl⟩ := List.cons.inj same
    rfl
  · next same =>
    obtain ⟨rfl, rfl⟩ := List.cons.inj same
    rfl
  · next bracket _ both minus tilde =>
    rw [part?_item (fun here => bracket rest (congrArg (· :: rest) here)) ?_]
    · cases range? free (c :: rest) <;> rfl
    · intro special first
      obtain ⟨more, rfl⟩ := List.head?_eq_some_iff.mp first
      simp only [List.mem_cons, List.not_mem_nil, or_false] at special
      rcases special with rfl | rfl | rfl
      · exact both more rfl
      · exact minus more rfl
      · exact tilde more rfl

/-- Reads up to the end of the outermost bracket with the fuel given. -/
def bracketsText (free : Bool) (fuel : Nat) (nesting : Nesting) : Reader (Bool × SetItem) :=
  fun cs => (brackets? free fuel nesting.1 nesting.2 cs).map fun p => ((p.1, p.2.1), p.2.2)

/-- One round of reading brackets, before a text without leading blanks. -/
def round (free : Bool) (next : Nesting → Reader (Bool × SetItem)) (nesting : Nesting) :
    Reader (Bool × SetItem)
  | [] => none
  | c :: rest =>
    if c = ']' then
      match endBracket? nesting with
      | some (.inl whole) => some (whole, rest)
      | some (.inr outer) => next outer rest
      | none => none
    else (part? free nesting (c :: rest)).bind fun p => next p.1 p.2

theorem bracketsText_succ (free : Bool) (fuel : Nat) (nesting : Nesting) (cs : List Char) :
    bracketsText free (fuel + 1) nesting cs =
      round free (bracketsText free fuel) nesting (dropFree free cs) := by
  unfold bracketsText
  cases text : dropFree free cs with
  | nil =>
    rw [brackets?, text]
    rfl
  | cons c rest =>
    by_cases ends : c = ']'
    · subst ends
      rw [brackets?, text]
      simp only [round, if_true, endBracket?]
      rcases closeOperand nesting.1 (ofItems nesting.2) with ⟨item, stack⟩
      rcases stack with _ | ⟨_ | _, _ | _⟩ <;> rfl
    · rw [brackets?_part text ends, round, if_neg ends]
      cases part? free nesting (c :: rest) <;> rfl

/-- A round goes on with a shorter text. -/
theorem round_congr {free : Bool} {next other : Nesting → Reader (Bool × SetItem)}
    {nesting : Nesting} {cs : List Char}
    (same : ∀ inner rest, rest.length < cs.length → next inner rest = other inner rest) :
    round free next nesting cs = round free other nesting cs := by
  cases cs with
  | nil => rfl
  | cons c rest =>
    have shorter : rest.length < (c :: rest).length := Nat.lt_succ_self _
    rw [round, round]
    by_cases ends : c = ']'
    · rw [if_pos ends, if_pos ends]
      split
      · rfl
      · exact same _ _ shorter
      · rfl
    · rw [if_neg ends, if_neg ends]
      apply Option.bind_congr
      intro p found
      have := ((local_part? free nesting).takes (Nat.lt_succ_self _) found).2
      exact same _ _ (by omega)

theorem bracketsText_fuel (free : Bool) {fuel more : Nat} {nesting : Nesting} {cs : List Char}
    (enough : cs.length < fuel) (also : cs.length < more) :
    bracketsText free fuel nesting cs = bracketsText free more nesting cs := by
  induction fuel generalizing more nesting cs with
  | zero => omega
  | succ fuel ih =>
    obtain ⟨more, rfl⟩ : ∃ m, more = m + 1 := ⟨more - 1, by omega⟩
    rw [bracketsText_succ, bracketsText_succ]
    -- A round leaves less text than it was given, and one unit of fuel less for it.
    apply round_congr
    intro inner rest shorter
    have := (dropFree_suffix free cs).length_le
    exact ih (by omega) (by omega)

/-- Reads up to the end of the outermost bracket. -/
def nested (free : Bool) (nesting : Nesting) : Reader (Bool × SetItem) := fun cs =>
  bracketsText free (cs.length + 1) nesting cs

theorem nested_eq (free : Bool) (nesting : Nesting) (cs : List Char) :
    nested free nesting cs = round free (nested free) nesting (dropFree free cs) := by
  unfold nested
  rw [bracketsText_succ]
  apply round_congr
  intro inner rest shorter
  have := (dropFree_suffix free cs).length_le
  exact bracketsText_fuel free (by omega) (Nat.lt_succ_self _)

theorem local_nested (free : Bool) (nesting : Nesting) : Local n 1 0 (nested free nesting) := by
  refine Local.recursion (fun m shorter nesting => ?_) n nesting
  have weaker (inner : Nesting) : Local m 0 0 (nested free inner) :=
    (shorter inner).relax
  have ended : Local m 0 0 fun rest =>
      match endBracket? nesting with
      | some (.inl whole) => some (whole, rest)
      | some (.inr outer) => nested free outer rest
      | none => none := by
    cases endBracket? nesting with
    | none => exact .none
    | some result =>
      cases result with
      | inl whole => exact .pure whole
      | inr outer => exact weaker outer
  have continued (c : Char) : Local m 0 0 fun rest =>
      (part? free nesting (c :: rest)).bind fun p => nested free p.1 p.2 :=
    (((local_part? free nesting).cons c).bind shorter (Nat.le_refl 1)).relax
  have once : Local (m + 1) 1 0 (round free (nested free) nesting) :=
    .of_cons rfl fun c => .ite ended (continued c)
  exact ((local_dropFree free).dropped once).congr (nested_eq free nesting)

/-- Reads a bracketed set. -/
def bracketedText (free : Bool) : Reader (Bool × SetItem) := fun cs =>
  (bracketed? free cs).map fun p => ((p.1, p.2.1), p.2.2)

theorem local_bracketedText (free : Bool) : Local n 1 0 (bracketedText free) := by
  have inside (start : Bool × List SetItem) :
      Local n 1 0 (nested free ([.bracket [] start.1], start.2)) :=
    local_nested free _
  have both : Local n 1 0 fun cs => (openingText free cs).bind fun p =>
      nested free ([.bracket [] p.1.1], p.1.2) p.2 :=
    (local_openingText free).bind inside (Nat.le_refl 1)
  refine both.congr fun cs => ?_
  unfold bracketedText bracketed? openingText
  cases opening? free cs <;> rfl

end Brackets

end ReadoutControl.Regex.SetItem
