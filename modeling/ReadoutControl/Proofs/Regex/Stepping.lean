import ReadoutControl.Proofs.Regex.Bracketing
import ReadoutControl.Proofs.Regex.Counting

set_option autoImplicit false

/-!
One step of reading an expression takes at least a character, and what it takes does not depend on
what comes after it.
-/

namespace ReadoutControl.Regex.Ast

variable {n : Nat}

section Groups

/-- The name of a group, if all its characters may stand in one. -/
def nameOf? : List Char → Option (List Char)
  | [] => none
  | c :: more =>
    if isNameChar true c && more.all (isNameChar false) then some (c :: more) else none

theorem groupName?_eq (cs : List Char) :
    groupName? cs = (upTo '>' cs).bind fun p => (nameOf? p.1).map (·, p.2) := by
  unfold groupName? upTo
  cases cs.dropWhile (· ≠ '>') with
  | nil => rfl
  | cons _ after =>
    cases cs.takeWhile (· ≠ '>') with
    | nil => rfl
    | cons c more =>
      simp only [Option.bind_some, nameOf?]
      split <;> rfl

/-- Opens a group that has a name. -/
def Progress.openNamed? (p : Progress) (name : List Char) : Option Progress :=
  if p.names.contains name then none
  else some { p.openGroup [] true with names := name :: p.names }

def named (p : Progress) : Reader Progress := fun cs =>
  (groupName? cs).bind fun q => (p.openNamed? q.1).map (·, q.2)

theorem named_eq (p : Progress) (cs : List Char) :
    named p cs = (groupName? cs).bind fun (name, after) =>
      if p.names.contains name then none
      else some ({ p.openGroup [] true with names := name :: p.names }, after) := by
  unfold named Progress.openNamed?
  cases groupName? cs with
  | none => rfl
  | some q =>
    simp only [Option.bind_some]
    split <;> rfl

theorem local_named (p : Progress) : Local n 1 0 (named p) :=
  (((local_upTo '>').bindValue nameOf?).congr groupName?_eq).bindValue p.openNamed?

/-- Takes in flags up to a closing parenthesis, or opens a group with them. -/
def afterFlags (p : Progress) (change : FlagChange) : Reader Progress
  | [] => none
  | c :: rest =>
    if c = ')' then
      if change.isEmpty then none
      else some ({ p.add (.flags change) with free := (change.lookup 'x').getD p.free }, rest)
    else if c = ':' then some (p.openGroup change false, rest)
    else none

def flagged (p : Progress) : Reader Progress := fun cs =>
  (flagText [] false false cs).bind fun q => afterFlags p q.1 q.2

theorem local_flagged (p : Progress) : Local n 1 0 (flagged p) := by
  have after (change : FlagChange) : Local n 1 0 (afterFlags p change) :=
    .of_cons rfl fun _ => .ite (.ite .none (.pure _)) (.ite (.pure _) .none)
  exact (local_flagText [] false false).bind after (Nat.le_refl 1)

/-- Reads the name of a group after its angle bracket, where no look-around may stand. -/
def angled (p : Progress) : Reader Progress := fun cs =>
  if cs.head? = some '=' ∨ cs.head? = some '!' then none else named p cs

theorem local_angled (p : Progress) : Local n 1 0 (angled p) := by
  have same {cs s : List Char} (stops : Stops s) :
      ((cs ++ s).head? = some '=' ∨ (cs ++ s).head? = some '!') ↔
        (cs.head? = some '=' ∨ cs.head? = some '!') := by
    cases cs with
    | cons c rest => rfl
    | nil =>
      cases s with
      | nil => rfl
      | cons c rest => rcases stops c rfl with rfl | rfl <;> simp
  refine .lookAhead .none (local_named p) ?_ ?_ ?_
  · exact fun inert => same inert.stops
  · exact fun closing => (same (stops_of_closing closing)).mpr
  · intro cs s a r closing no yes
    exact (no ((same (stops_of_closing closing)).mp yes)).elim

/-- Reads what follows a question mark after an opening parenthesis. -/
def question (p : Progress) : Reader Progress
  | [] => none
  | '<' :: rest => angled p rest
  | 'P' :: '<' :: rest => named p rest
  | cs => flagged p cs

theorem question_of_flags {p : Progress} {c : Char} {rest : List Char} (angle : c ≠ '<')
    (name : c = 'P' → rest.head? ≠ some '<') : question p (c :: rest) = flagged p (c :: rest) := by
  unfold question
  split
  · contradiction
  · next same => exact (angle (List.cons.inj same).1).elim
  · next same =>
    obtain ⟨rfl, rfl⟩ := List.cons.inj same
    exact (name rfl rfl).elim
  · rfl

theorem local_question (p : Progress) : Local n 1 0 (question p) := by
  have flags (c : Char) : Local (n - 1) 0 0 fun rest => flagged p (c :: rest) :=
    (local_flagged p).cons c
  refine .of_cons rfl fun c => ?_
  by_cases angle : c = '<'
  · subst angle
    exact (local_angled p).relax
  · by_cases name : c = 'P'
    · subst name
      have after : Local (n - 1 - 1) 0 0 fun rest => question p ('P' :: '<' :: rest) :=
        (local_named p).relax
      exact .onHead (by decide) after (flags 'P') fun _ other =>
        question_of_flags angle fun _ => other
    · exact (flags c).congr fun _ => question_of_flags angle fun same => (name same).elim

/-- Reads what follows an opening parenthesis and blanks. -/
def afterParen (p : Progress) : Reader Progress
  | '?' :: rest => question p rest
  | cs => some (p.openGroup [] true, cs)

theorem afterParen_of_head {p : Progress} {cs : List Char} (other : cs.head? ≠ some '?') :
    afterParen p cs = some (p.openGroup [] true, cs) := by
  unfold afterParen
  split
  · exact (other rfl).elim
  · rfl

theorem flagged_eq (p : Progress) (cs : List Char) :
    flagged p cs = (flags? [] false false cs).bind fun (change, _, after) =>
      match after with
      | ')' :: after =>
        if change.isEmpty then none
        else some ({ p.add (.flags change) with free := (change.lookup 'x').getD p.free }, after)
      | ':' :: after => some (p.openGroup change false, after)
      | _ => none := by
  unfold flagged flagText
  cases flags? [] false false cs with
  | none => rfl
  | some q =>
    obtain ⟨change, negated, after⟩ := q
    simp only [Option.map_some, Option.bind_some]
    split
    · rfl
    · rfl
    · next closing colon =>
      cases after with
      | nil => rfl
      | cons c rest =>
        have noClosing : c ≠ ')' := fun same => closing rest (congrArg (· :: rest) same)
        have noColon : c ≠ ':' := fun same => colon rest (congrArg (· :: rest) same)
        rw [afterFlags, if_neg noClosing, if_neg noColon]

theorem openParen?_eq (p : Progress) (cs : List Char) :
    openParen? p cs = afterParen p (dropFree p.free cs) := by
  unfold openParen?
  generalize dropFree p.free cs = text
  by_cases look : isLookAround text = true
  · simp only [look, if_true]
    unfold isLookAround at look
    split at look
    · rfl
    · rfl
    · rfl
    · rfl
    · exact nomatch look
  · simp only [look, Bool.false_eq_true, if_false]
    split
    · next rest => exact (named_eq p rest).symm
    · next rest =>
      have free : ¬ (rest.head? = some '=' ∨ rest.head? = some '!') := by
        rintro (first | first)
        all_goals
          obtain ⟨more, rfl⟩ := List.head?_eq_some_iff.mp first
          exact look rfl
      rw [afterParen, question, angled, if_neg free]
      exact (named_eq p rest).symm
    · next rest name angle =>
      rw [afterParen]
      cases rest with
      | nil => rfl
      | cons c more =>
        have first : c ≠ '<' := by
          rintro rfl
          exact angle more rfl
        have later : c = 'P' → more.head? ≠ some '<' := by
          rintro rfl here
          obtain ⟨rest, rfl⟩ := List.head?_eq_some_iff.mp here
          exact name rest rfl
        exact ((question_of_flags first later).trans (flagged_eq p (c :: more))).symm
    · next _ _ other =>
      refine (afterParen_of_head fun first => ?_).symm
      obtain ⟨rest, rfl⟩ := List.head?_eq_some_iff.mp first
      exact other rest rfl

theorem local_openParen? (p : Progress) : Local n 0 0 (openParen? p) := by
  have after : Local n 0 0 (afterParen p) := by
    refine .onHead (by decide) ?_ (.pure _) fun _ other => afterParen_of_head other
    exact (local_question p).relax
  exact ((local_dropFree p.free).dropped after).congr (openParen?_eq p)

end Groups

section Steps

theorem local_repeatLast? (p : Progress) (least : Nat) (most : Option Nat) :
    Local n 0 0 (p.repeatLast? least most) := by
  unfold Progress.repeatLast?
  cases p.items with
  | nil => exact .none
  | cons item rest =>
    refine .ite ?_ .none
    exact local_fewFirst.map fun few =>
      { p with items := Ast.repeated item least most few :: rest }

theorem step?_primitive {p : Progress} {c : Char} {rest : List Char}
    (plain : c ∉ ['(', ')', '|', '[', '?', '*', '+', '\x7b']) :
    step? p (c :: rest) =
      (primitive? p.free (c :: rest)).map fun q => (p.add (ofPrimitive q.1), q.2) := by
  simp only [List.mem_cons, List.not_mem_nil, or_false, not_or] at plain
  obtain ⟨paren, closing, bar, bracket, question, star, plus, brace⟩ := plain
  unfold step?
  split
  · next same => exact (paren (List.cons.inj same).1).elim
  · next same => exact (closing (List.cons.inj same).1).elim
  · next same => exact (bar (List.cons.inj same).1).elim
  · next same => exact (bracket (List.cons.inj same).1).elim
  · next same => exact (question (List.cons.inj same).1).elim
  · next same => exact (star (List.cons.inj same).1).elim
  · next same => exact (plus (List.cons.inj same).1).elim
  · next same => exact (brace (List.cons.inj same).1).elim
  · rfl

theorem local_step? (p : Progress) : Local n 1 0 (step? p) := by
  refine .of_cons rfl fun c => ?_
  by_cases special : c ∈ ['(', ')', '|', '[', '?', '*', '+', '\x7b']
  · have set : Local (n - 1) 0 0 fun rest => (SetItem.bracketedText p.free rest).map fun q =>
        (p.add (.bracketed q.1.1 q.1.2), q.2) :=
      ((SetItem.local_bracketedText p.free).map fun q => p.add (.bracketed q.1 q.2)).relax
    have bounded : Local (n - 1) 0 0 fun rest => (bounds? p.free rest).bind fun q =>
        p.repeatLast? q.1.1 q.1.2 (dropFree p.free q.2) :=
      ((local_bounds? p.free).bind (fun bounds => (local_dropFree p.free).dropped
        (local_repeatLast? p bounds.1 bounds.2)) (Nat.le_refl 0)).relax
    simp only [List.mem_cons, List.not_mem_nil, or_false] at special
    rcases special with rfl | rfl | rfl | rfl | rfl | rfl | rfl | rfl
    · exact local_openParen? p
    · exact .value p.closeGroup?
    · exact .pure _
    · refine set.congr fun rest => ?_
      simp only [step?, SetItem.bracketedText]
      cases SetItem.bracketed? p.free rest <;> rfl
    · exact local_repeatLast? p 0 (some 1)
    · exact local_repeatLast? p 0 none
    · exact local_repeatLast? p 1 none
    · exact bounded
  · exact (((local_primitive? p.free).cons c).map fun q => p.add (ofPrimitive q)).congr
      fun _ => step?_primitive special

end Steps

end ReadoutControl.Regex.Ast
