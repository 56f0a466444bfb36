import ReadoutControl.Proofs.Regex.Blanks

set_option autoImplicit false

/-!
The readers of escapes, of codes in braces and of the names of properties and boundaries are local:
what they take from the front of a text stays the same when the text goes on with a closing
parenthesis.
-/

namespace ReadoutControl.Regex

variable {α : Type} {n : Nat}

section Marks

/-- Reads a certain character. -/
def mark (c : Char) (a : α) : Reader α
  | [] => none
  | d :: rest => if d = c then some (a, rest) else none

theorem local_mark (c : Char) (a : α) : Local n 1 0 (mark c a) := by
  refine .of_cons rfl fun d => ?_
  exact .ite (.pure a) .none

theorem mark_append {c : Char} {a b : α} {cs r : List Char} (s : List Char)
    (found : mark c a cs = some (b, r)) : mark c a (cs ++ s) = some (b, r ++ s) := by
  cases cs with
  | nil => exact nomatch found
  | cons d rest =>
    obtain ⟨here, same⟩ := Option.ite_none_right_eq_some.mp found
    obtain ⟨rfl, rfl⟩ := Prod.mk.inj (Option.some.inj same)
    exact if_pos here

theorem mark_append_none {c : Char} {a : α} {cs s : List Char} (absent : s.head? ≠ some c)
    (missing : mark c a cs = none) : mark c a (cs ++ s) = none := by
  cases cs with
  | nil =>
    cases s with
    | nil => rfl
    | cons d rest => exact if_neg fun same => absent (congrArg some same)
  | cons d rest => exact if_neg fun here => nomatch (if_pos here).symm.trans missing

/-- Reads up to a character, which is left out. -/
def upTo (mark : Char) : Reader (List Char) := fun cs =>
  match cs.dropWhile (· ≠ mark) with
  | _ :: after => some (cs.takeWhile (· ≠ mark), after)
  | [] => none

theorem upTo_cons (mark c : Char) (rest : List Char) :
    upTo mark (c :: rest) =
      if c = mark then some ([], rest) else (upTo mark rest).map fun p => (c :: p.1, p.2) := by
  unfold upTo
  by_cases here : c = mark
  · subst here
    rw [if_pos rfl, List.dropWhile_cons_of_neg (by simp), List.takeWhile_cons_of_neg (by simp)]
  · rw [if_neg here, List.dropWhile_cons_of_pos (by simpa using here),
      List.takeWhile_cons_of_pos (by simpa using here)]
    cases rest.dropWhile (· ≠ mark) with
    | nil => rfl
    | cons d after => rfl

theorem local_upTo (mark : Char) : Local n 1 0 (upTo mark) := by
  have all : ∀ m (_ : Unit), Local m 1 0 (upTo mark) := Local.recursion fun m shorter _ => by
    refine .of_cons rfl fun c => ?_
    simp only [upTo_cons]
    exact .ite (.pure []) (((shorter ()).map (c :: ·)).relax)
  exact all n ()

theorem upTo_append {c : Char} {cs before after : List Char} (s : List Char)
    (found : upTo c cs = some (before, after)) : upTo c (cs ++ s) = some (before, after ++ s) := by
  induction cs generalizing before with
  | nil => exact nomatch found
  | cons d rest ih =>
    rw [upTo_cons] at found
    rw [List.cons_append, upTo_cons]
    by_cases here : d = c
    · rw [if_pos here] at found ⊢
      obtain ⟨rfl, rfl⟩ := Prod.mk.inj (Option.some.inj found)
      rfl
    · rw [if_neg here] at found ⊢
      obtain ⟨⟨text, rest⟩, later, same⟩ := Option.map_eq_some_iff.mp found
      obtain ⟨rfl, rfl⟩ := Prod.mk.inj same
      rw [ih later]
      rfl

theorem upTo_append_none {c : Char} {cs s : List Char} (absent : c ∉ s)
    (missing : upTo c cs = none) : upTo c (cs ++ s) = none := by
  have never : ∀ {text : List Char}, c ∉ text → upTo c text = none := by
    intro text
    induction text with
    | nil => exact fun _ => rfl
    | cons d rest ih =>
      intro absent
      rw [List.mem_cons, not_or] at absent
      rw [upTo_cons, if_neg (Ne.symm absent.1), ih absent.2]
      rfl
  induction cs with
  | nil => exact never absent
  | cons d rest ih =>
    rw [upTo_cons] at missing
    rw [List.cons_append, upTo_cons]
    by_cases here : d = c
    · rw [if_pos here] at missing
      exact nomatch missing
    · rw [if_neg here] at missing ⊢
      rw [ih (Option.map_eq_none_iff.mp missing)]
      rfl

end Marks

section Braces

/-- Reads up to a closing brace, without what means nothing in it. -/
def toBrace (free inComment : Bool) : Reader (List Char)
  | [] => none
  | c :: rest =>
    if inComment then toBrace free (c != '\n') rest
    else if c = '\x7d' then some ([], rest)
    else if free && Text.isBlank c then toBrace free false rest
    else if free && c = '#' then toBrace free true rest
    else (toBrace free false rest).map fun p => (c :: p.1, p.2)

theorem local_toBrace (free inComment : Bool) : Local n 1 0 (toBrace free inComment) := by
  refine Local.recursion (fun m shorter inComment => ?_) n inComment
  have weaker (b : Bool) := (shorter b).relax
  refine .of_cons rfl fun c => ?_
  simp only [toBrace]
  exact .ite (weaker _) (.ite (.pure []) (.ite (weaker false) (.ite (weaker true)
    ((weaker false).map (c :: ·)))))

theorem toBrace_squeeze (inComment : Bool) (cs : List Char) :
    toBrace true inComment cs = upTo '\x7d' (bracedHex?.squeeze inComment cs) := by
  induction cs generalizing inComment with
  | nil => rfl
  | cons c rest ih =>
    simp only [toBrace, bracedHex?.squeeze, Bool.true_and]
    split
    · exact ih _
    · split
      · next brace => simp [upTo_cons, brace]
      · next other =>
        split
        · exact ih _
        · simp only [decide_eq_true_eq]
          split
          · exact ih _
          · rw [ih, upTo_cons, if_neg other]

/-- What stands before a brace, and what comes after it. -/
theorem toBrace_eq (free : Bool) (cs : List Char) :
    toBrace free false cs = upTo '\x7d' (bracedHex?.dropSpaces free cs) := by
  cases free with
  | true => exact toBrace_squeeze false cs
  | false =>
    simp only [bracedHex?.dropSpaces]
    induction cs with
    | nil => rfl
    | cons c rest ih =>
      simp only [toBrace, Bool.false_eq_true, if_false, Bool.false_and] at ih ⊢
      rw [upTo_cons, ih]

theorem local_bracedHex? (free : Bool) : Local n 1 0 (bracedHex? free) := by
  have after (digits : List Char) : Local n 0 0 fun cs =>
      if digits.all fun c => (Text.digitValue? 16 c).isSome then
        some (digits, dropFree free cs)
      else none :=
    .ite ((local_dropFree free).dropped (.pure digits)) .none
  refine ((local_toBrace free false).bind after (Nat.le_refl 0)).congr fun cs => ?_
  simp only [bracedHex?, toBrace_eq, upTo]
  cases (bracedHex?.dropSpaces free cs).dropWhile (· ≠ '\x7d') <;> rfl

theorem local_hexDigits? (free : Bool) (count : Nat) :
    Local n count 0 (hexDigits? free count) := by
  induction count generalizing n with
  | zero => exact .pure []
  | succ count ih =>
    refine .of_cons rfl fun c => ?_
    simp only [hexDigits?]
    exact .ite .none ((local_dropFree free).dropped (ih.map (c :: ·)))

/-- The digits of a code without braces. -/
def plainDigits (free : Bool) (letter : Char) : Reader (List Char × Bool) := fun cs =>
  (hexDigits? free (if letter = 'x' then 2 else if letter = 'u' then 4 else 8) cs).map
    fun p => ((p.1, false), p.2)

/-- The digits of a code, and whether they stand in braces. -/
def codeDigits (free : Bool) (letter : Char) : Reader (List Char × Bool)
  | '\x7b' :: rest => (bracedHex? free rest).map fun p => ((p.1, true), p.2)
  | cs => plainDigits free letter cs

theorem codeDigits_of_ne {free : Bool} {letter : Char} {cs : List Char}
    (other : ∀ rest, cs = '\x7b' :: rest → False) :
    codeDigits free letter cs = plainDigits free letter cs := by
  unfold codeDigits
  split
  · exact (other _ rfl).elim
  · rfl

theorem local_codeDigits (free : Bool) (letter : Char) : Local n 1 0 (codeDigits free letter) := by
  have plain : Local n 1 0 (plainDigits free letter) := by
    refine ((local_hexDigits? free _).map (·, false)).mono ?_ (Nat.le_refl 0)
    split
    · decide
    · split <;> decide
  have braced : Local (n - 1) 0 0 fun rest => codeDigits free letter ('\x7b' :: rest) :=
    ((local_bracedHex? free).map (·, true)).relax
  refine .onHead (by decide) braced plain fun cs other => codeDigits_of_ne ?_
  rintro rest rfl
  exact other rfl

/-- The character of a code, as it was written. -/
def codeChar? (letter : Char) (code : List Char × Bool) : Option Literal :=
  (Text.digits? 16 code.1).bind fun n =>
    (charOfCode? n).map fun c => ⟨c, letter = 'x' && !code.2⟩

theorem codeChar?_eq (letter : Char) (digits after : List Char) (braced : Bool) :
    (do
      let code ← Text.digits? 16 digits
      let c ← charOfCode? code
      return ((⟨c, letter = 'x' && !braced⟩ : Literal), after)) =
        (codeChar? letter (digits, braced)).map (·, after) := by
  rw [codeChar?]
  cases Text.digits? 16 digits with
  | none => rfl
  | some code => cases h : charOfCode? code <;> simp [h]

theorem local_codeLiteral? (free : Bool) (letter : Char) :
    Local n 1 0 (codeLiteral? free letter) := by
  have code : Local n 1 0 fun cs => (codeDigits free letter cs).bind fun p =>
      (codeChar? letter p.1).map (·, p.2) :=
    (local_codeDigits free letter).bindValue (codeChar? letter)
  refine (local_advance? free code (Nat.le_refl 1)).congr fun cs => ?_
  unfold codeLiteral?
  cases advance? free cs with
  | none => rfl
  | some text =>
    simp only [Option.bind_eq_bind, Option.bind_some]
    split
    · next rest =>
      rw [codeDigits]
      cases bracedHex? free rest with
      | none => rfl
      | some found => exact codeChar?_eq letter found.1 found.2 true
    · next other =>
      rw [codeDigits_of_ne other, plainDigits]
      generalize hexDigits? free _ text = digits
      cases digits with
      | none => rfl
      | some found => exact codeChar?_eq letter found.1 found.2 false

/-- The property after its `\\p`. -/
def propertyText (free : Bool) : Reader PropertyQuery
  | [] => none
  | c :: rest =>
    if c = '\x7b' then (toBrace free false rest).map fun p => (queryOfName p.1, p.2)
    else if c = '\\' then none
    else some (.letter c, dropFree free rest)

theorem local_property? (free : Bool) : Local n 1 0 (property? free) := by
  have text : Local n 1 0 (propertyText free) := by
    refine .of_cons rfl fun c => ?_
    have named : Local (n - 1) 0 0 fun rest =>
        (toBrace free false rest).map fun p => (queryOfName p.1, p.2) :=
      ((local_toBrace free false).map queryOfName).relax
    exact .ite named (.ite .none ((local_dropFree free).dropped (.pure (PropertyQuery.letter c))))
  refine (local_advance? free text (Nat.le_refl 1)).congr fun cs => ?_
  unfold property?
  cases advance? free cs with
  | none => rfl
  | some text =>
    simp only [Option.bind_eq_bind, Option.bind_some]
    split
    · next rest =>
      simp only [propertyText, if_true, toBrace_eq, upTo]
      cases (bracedHex?.dropSpaces free rest).dropWhile (· ≠ '\x7d') <;> rfl
    · rfl
    · next c rest brace slash =>
      rw [propertyText, if_neg brace, if_neg slash]
      rfl
    · rfl

end Braces

section Boundaries

/-- The boundary of a name, if it is one. -/
def boundaryOf? (name : List Char) : Option Assertion :=
  if String.ofList name = "start" then some .wordStart
  else if String.ofList name = "end" then some .wordEnd
  else if String.ofList name = "start-half" then some .wordStartHalf
  else if String.ofList name = "end-half" then some .wordEndHalf
  else none

/-- Reads the name of a boundary and the brace after it. -/
def boundaryText (free : Bool) : Reader Assertion := fun cs =>
  (toBrace free false cs).bind fun p =>
    (if p.1.all isBoundaryNameChar then boundaryOf? p.1 else none).map (·, p.2)

theorem local_boundaryText (free : Bool) : Local n 1 0 (boundaryText free) :=
  (local_toBrace free false).bindValue fun name =>
    if name.all isBoundaryNameChar then boundaryOf? name else none

/-- Letters and hyphens that a brace follows, with what comes after the brace. -/
def nameToBrace (text : List Char) : Option (List Char × List Char) :=
  match text.dropWhile isBoundaryNameChar with
  | '\x7d' :: after => some (text.takeWhile isBoundaryNameChar, after)
  | _ => none

theorem nameToBrace_cons {c : Char} (named : isBoundaryNameChar c = true) (rest : List Char) :
    nameToBrace (c :: rest) = (nameToBrace rest).map fun p => (c :: p.1, p.2) := by
  unfold nameToBrace
  rw [List.dropWhile_cons_of_pos named, List.takeWhile_cons_of_pos named]
  split <;> rfl

theorem nameToBrace_cons_of_other {c : Char} (other : isBoundaryNameChar c = false)
    (brace : c ≠ '\x7d') (rest : List Char) : nameToBrace (c :: rest) = none := by
  unfold nameToBrace
  rw [List.dropWhile_cons_of_neg (by simp [other])]
  split
  · next same => exact (brace (List.cons.inj same).1).elim
  · rfl

/-- Letters and hyphens up to a brace are all that stands before the first brace. -/
theorem nameToBrace_eq (text : List Char) :
    nameToBrace text = (upTo '\x7d' text).filter fun p => p.1.all isBoundaryNameChar := by
  induction text with
  | nil => rfl
  | cons c rest ih =>
    by_cases brace : c = '\x7d'
    · subst brace
      rfl
    · rw [upTo_cons, if_neg brace]
      cases named : isBoundaryNameChar c with
      | true =>
        rw [nameToBrace_cons named, ih]
        cases upTo '\x7d' rest with
        | none => rfl
        | some p =>
          simp only [Option.map_some, Option.filter, List.all_cons, named, Bool.true_and]
          split <;> rfl
      | false =>
        rw [nameToBrace_cons_of_other named brace]
        cases upTo '\x7d' rest with
        | none => rfl
        | some p => simp [Option.filter, named]

theorem nameToBrace_bind (text : List Char) :
    (nameToBrace text).bind (fun p => (boundaryOf? p.1).map (·, p.2)) =
      match text.dropWhile isBoundaryNameChar with
      | '\x7d' :: after =>
        let name := String.ofList (text.takeWhile isBoundaryNameChar)
        if name = "start" then some (.wordStart, after)
        else if name = "end" then some (.wordEnd, after)
        else if name = "start-half" then some (.wordStartHalf, after)
        else if name = "end-half" then some (.wordEndHalf, after)
        else none
      | _ => none := by
  unfold nameToBrace
  split
  · simp only [Option.bind_some, boundaryOf?]
    repeat' split
    all_goals rfl
  · rfl

/-- Braces after a word boundary belong to it if they begin like a name. -/
theorem boundaryName?_brace (free : Bool) (rest : List Char) :
    boundaryName? free ('\x7b' :: rest) =
      if (dropFree free rest).head?.any isBoundaryNameChar then
        boundaryText free (dropFree free rest)
      else some (.boundary, '\x7b' :: rest) := by
  simp only [boundaryName?, boundaryText]
  cases dropFree free rest with
  | nil => rfl
  | cons c more =>
    simp only [List.head?_cons, Option.any_some]
    by_cases named : isBoundaryNameChar c = true
    · have same := nameToBrace_eq (bracedHex?.dropSpaces free (c :: more))
      rw [← toBrace_eq] at same
      have bound : (toBrace free false (c :: more)).bind (fun p =>
          (if p.1.all isBoundaryNameChar then boundaryOf? p.1 else none).map (·, p.2)) =
          (nameToBrace (bracedHex?.dropSpaces free (c :: more))).bind fun p =>
            (boundaryOf? p.1).map (·, p.2) := by
        rw [same]
        cases toBrace free false (c :: more) with
        | none => rfl
        | some p =>
          simp only [Option.filter, Option.bind_some]
          split <;> rfl
      simp only [named, Bool.not_true, Bool.false_eq_true, if_false, if_true, bound]
      exact (nameToBrace_bind _).symm
    · simp [named]

/-- Whether what follows a word boundary is a brace that belongs to it. -/
def startsName (free : Bool) : List Char → Bool
  | '\x7b' :: rest => (dropFree free rest).head?.any isBoundaryNameChar
  | _ => false

theorem startsName_of_head {free : Bool} {cs : List Char} (other : cs.head? ≠ some '\x7b') :
    startsName free cs = false := by
  unfold startsName
  split
  · exact (other rfl).elim
  · rfl

/-- The name of a boundary after its opening brace. -/
def bracedBoundary (free : Bool) : Reader Assertion
  | [] => none
  | _ :: rest => boundaryText free (dropFree free rest)

theorem local_bracedBoundary (free : Bool) : Local n 1 0 (bracedBoundary free) := by
  refine .of_cons rfl fun _ => ?_
  exact ((local_dropFree free).dropped (local_boundaryText free)).relax

theorem boundaryName?_eq (free : Bool) (cs : List Char) :
    boundaryName? free cs =
      if startsName free cs then bracedBoundary free cs else some (.boundary, cs) := by
  by_cases brace : cs.head? = some '\x7b'
  · obtain ⟨rest, rfl⟩ := List.head?_eq_some_iff.mp brace
    exact boundaryName?_brace free rest
  · rw [startsName_of_head brace]
    unfold boundaryName?
    split
    · exact (brace rfl).elim
    · rfl

theorem not_isBoundaryNameChar_of_stops {s : List Char} (stops : Stops s) :
    s.head?.any isBoundaryNameChar = false := by
  cases s with
  | nil => rfl
  | cons c rest => rcases stops c rfl with rfl | rfl <;> rfl

theorem startsName_of_stops {s : List Char} (stops : Stops s) (free : Bool) :
    startsName free s = false := by
  refine startsName_of_head fun brace => ?_
  rcases stops _ brace with same | same <;> simp at same

theorem startsName_append (free : Bool) (cs : List Char) {s : List Char} (stops : Stops s) :
    startsName free (cs ++ s) = startsName free cs ∨
      (startsName free cs = false ∧
        startsName free (cs ++ s) = (dropFree.go true s).head?.any isBoundaryNameChar ∧
        bracedBoundary free (cs ++ s) = boundaryText free (dropFree.go true s)) := by
  cases cs with
  | nil => exact .inl (startsName_of_stops stops free)
  | cons c rest =>
    by_cases brace : c = '\x7b'
    · subst brace
      simp only [startsName, List.cons_append, bracedBoundary]
      rcases dropFree_append free rest with ⟨nothing, inComment, added⟩ | ⟨something, added⟩
      · rw [nothing, added]
        cases inComment with
        | false =>
          rw [if_neg Bool.false_ne_true, dropFree_of_stops stops,
            not_isBoundaryNameChar_of_stops stops]
          exact .inl rfl
        | true => exact .inr ⟨rfl, rfl, rfl⟩
      · rw [added, List.head?_append, List.head?_eq_some_head something]
        exact .inl rfl
    · left
      rw [startsName_of_head (by simpa using brace), startsName_of_head (by simpa using brace)]

theorem local_boundaryName? (free : Bool) : Local n 0 0 (boundaryName? free) := by
  have named := (local_bracedBoundary (n := n) free).relax
  refine (Local.lookAhead named (.pure Assertion.boundary) ?_ ?_ ?_).congr (boundaryName?_eq free)
  · intro cs s inert
    rcases startsName_append free cs inert.stops with same | ⟨no, still, _⟩
    · rw [same]
    · rw [no, still, dropFree_go_inert inert]
      rfl
  · intro cs s closing yes
    rcases startsName_append free cs (stops_of_closing closing) with same | ⟨no, _⟩
    · exact same.trans yes
    · exact nomatch no.symm.trans yes
  · intro cs s a r closing no yes found
    rcases startsName_append free cs (stops_of_closing closing) with same | ⟨_, _, read⟩
    · exact (no (same.symm.trans yes)).elim
    · rw [read] at found
      have taken := ((local_boundaryText free).takes (Nat.lt_succ_self _) found).2
      have := dropFree_go_lt closing
      omega

end Boundaries

section Escapes

theorem escape?_eq_value {c : Char} (plain : c ∉ ['x', 'u', 'U', 'p', 'P', 'b']) (free : Bool)
    (rest : List Char) :
    escape? free (c :: rest) = ((escape? free [c]).map Prod.fst).map (·, rest) := by
  simp only [List.mem_cons, List.not_mem_nil, or_false, not_or] at plain
  obtain ⟨x, u, bigU, p, bigP, b⟩ := plain
  have code : ¬ (c = 'x' ∨ c = 'u' ∨ c = 'U') := by simp [x, u, bigU]
  have property : ¬ (c = 'p' ∨ c = 'P') := by simp [p, bigP]
  simp only [escape?, code, property, if_false]
  by_cases digit : c.isDigit = true
  · simp only [digit, if_true, Option.map_none]
  · by_cases escapable : isEscapable c = true
    · simp only [digit, escapable, if_true]
      rfl
    · simp only [digit, escapable, Bool.false_eq_true, if_false]
      split
      any_goals rfl
      exact (b rfl).elim

theorem local_escape? (free : Bool) : Local n 1 0 (escape? free) := by
  refine .of_cons rfl fun c => ?_
  by_cases special : c ∈ ['x', 'u', 'U', 'p', 'P', 'b']
  · have code (letter : Char) : Local (n - 1) 0 0 fun rest =>
        (codeLiteral? free letter rest).map fun p => (Primitive.literal p.1, p.2) :=
      ((local_codeLiteral? free letter).map Primitive.literal).relax
    have property (negated : Bool) : Local (n - 1) 0 0 fun rest =>
        (property? free rest).map fun p => (Primitive.property negated p.1, p.2) :=
      ((local_property? free).map (Primitive.property negated)).relax
    simp only [List.mem_cons, List.not_mem_nil, or_false] at special
    rcases special with rfl | rfl | rfl | rfl | rfl | rfl
    · exact code 'x'
    · exact code 'u'
    · exact code 'U'
    · exact property false
    · exact property true
    · exact (local_boundaryName? free).map Primitive.assertion
  · exact (Local.value _).congr (escape?_eq_value special free)

theorem primitive?_literal {c : Char} (plain : c ∉ ['\\', '.', '^', '$']) (free : Bool)
    (rest : List Char) : primitive? free (c :: rest) = some (.literal ⟨c, false⟩, rest) := by
  simp only [List.mem_cons, List.not_mem_nil, or_false, not_or] at plain
  obtain ⟨slash, dot, caret, dollar⟩ := plain
  unfold primitive?
  split
  · contradiction
  · next same => exact (slash (List.cons.inj same).1).elim
  · next same => exact (dot (List.cons.inj same).1).elim
  · next same => exact (caret (List.cons.inj same).1).elim
  · next same => exact (dollar (List.cons.inj same).1).elim
  · next same =>
    obtain ⟨rfl, rfl⟩ := List.cons.inj same
    rfl

theorem local_primitive? (free : Bool) : Local n 1 0 (primitive? free) := by
  refine .of_cons rfl fun c => ?_
  by_cases special : c ∈ ['\\', '.', '^', '$']
  · simp only [List.mem_cons, List.not_mem_nil, or_false] at special
    rcases special with rfl | rfl | rfl | rfl
    · exact (local_escape? free).relax
    all_goals exact .pure _
  · exact (Local.pure _).congr (primitive?_literal special free)

end Escapes

end ReadoutControl.Regex
