import ReadoutControl.Proofs.Regex.Locality

set_option autoImplicit false

/-!
Blanks and comments between the parts of an expression. They end before a closing parenthesis, unless
a comment is open, which takes it in.
-/

namespace ReadoutControl.Regex

variable {α : Type} {n least spare : Nat} {read : Reader α}

/-- Text either ends inside what is left out or is left from some character on. -/
theorem dropFree_go_append (inComment : Bool) (cs : List Char) :
    (dropFree.go inComment cs = [] ∧
      ∃ later : Bool, ∀ s, dropFree.go inComment (cs ++ s) = dropFree.go later s) ∨
    (dropFree.go inComment cs ≠ [] ∧
      ∀ s, dropFree.go inComment (cs ++ s) = dropFree.go inComment cs ++ s) := by
  induction cs generalizing inComment with
  | nil => exact .inl ⟨rfl, inComment, fun _ => rfl⟩
  | cons c rest ih =>
    simp only [dropFree.go, List.cons_append]
    split
    · exact ih _
    · split
      · exact ih _
      · split
        · exact ih _
        · exact .inr ⟨by simp, fun _ => rfl⟩

theorem dropFree_go_inert {s : List Char} (inert : Inert s) (inComment : Bool) :
    dropFree.go inComment s = if inComment then [] else s := by
  induction s generalizing inComment with
  | nil => cases inComment <;> rfl
  | cons c rest ih =>
    have tail := ih fun d member => inert d (List.mem_cons_of_mem _ member)
    rcases inert c (List.mem_cons_self ..) with rfl | rfl <;> cases inComment
    · rfl
    · exact tail true
    · rfl
    · exact tail true

/-- Blanks and comments either end before what is added, or they are all there is. -/
theorem dropFree_append (free : Bool) (cs : List Char) :
    (dropFree free cs = [] ∧ ∃ inComment : Bool, ∀ s, dropFree free (cs ++ s) =
      if inComment then dropFree.go true s else dropFree free s) ∨
    (dropFree free cs ≠ [] ∧ ∀ s, dropFree free (cs ++ s) = dropFree free cs ++ s) := by
  cases free with
  | false =>
    cases cs with
    | nil => exact .inl ⟨rfl, false, fun _ => rfl⟩
    | cons c rest => exact .inr ⟨List.cons_ne_nil c rest, fun _ => rfl⟩
  | true =>
    rcases dropFree_go_append false cs with ⟨nothing, later, added⟩ | kept
    · refine .inl ⟨nothing, later, fun s => ?_⟩
      cases later <;> exact added s
    · exact .inr kept

theorem dropFree_of_stops {s : List Char} (stops : Stops s) (free : Bool) :
    dropFree free s = s := by
  cases free with
  | false => rfl
  | true =>
    cases s with
    | nil => rfl
    | cons c rest => rcases stops c rfl with rfl | rfl <;> rfl

theorem dropFree_go_lt {s : List Char} (closing : s.head? = some ')') :
    (dropFree.go true s).length < s.length := by
  obtain ⟨rest, rfl⟩ := List.head?_eq_some_iff.mp closing
  have := (dropFree_go_suffix (')' != '\n') rest).length_le
  simp only [dropFree.go, if_true, List.length_cons]
  omega

theorem local_dropFree (free : Bool) : Local n 0 0 fun cs => some ((), dropFree free cs) where
  takes {cs _ r} _ found := by
    obtain rfl : dropFree free cs = r := congrArg Prod.snd (Option.some.inj found)
    exact ⟨dropFree_suffix free cs, (dropFree_suffix free cs).length_le⟩
  append {cs _ r s} _ inert found := by
    obtain rfl : dropFree free cs = r := congrArg Prod.snd (Option.some.inj found)
    rcases dropFree_append free cs with ⟨nothing, inComment, added⟩ | ⟨_, added⟩
    · rw [added, nothing]
      cases inComment with
      | false => exact .inl (congrArg (fun rest => some ((), rest)) (dropFree_of_stops inert.stops free))
      | true => exact .inr ⟨rfl, congrArg (fun rest => some ((), rest)) (dropFree_go_inert inert true)⟩
    · exact .inl (congrArg (fun rest => some ((), rest)) (added s))
  of_append {cs _ r s} _ closing found left := by
    obtain rfl : dropFree free (cs ++ s) = r := congrArg Prod.snd (Option.some.inj found)
    refine ⟨_, rfl, ?_⟩
    rcases dropFree_append free cs with ⟨nothing, inComment, added⟩ | ⟨_, added⟩
    · rw [added] at left ⊢
      cases inComment with
      | false =>
        rw [nothing]
        exact dropFree_of_stops (stops_of_closing closing) free
      | true =>
        have := dropFree_go_lt closing
        simp only [if_true] at left
        omega
    · exact added s

theorem local_nonempty (a : α) :
    Local n 0 1 fun cs => if cs = [] then none else some (a, cs) where
  takes {cs a r} _ found := by
    obtain ⟨_, same⟩ := Option.ite_none_left_eq_some.mp found
    obtain ⟨rfl, rfl⟩ := Prod.mk.inj (Option.some.inj same)
    exact ⟨List.suffix_refl _, Nat.le_refl _⟩
  append {cs a r s} _ _ found := by
    obtain ⟨nonempty, same⟩ := Option.ite_none_left_eq_some.mp found
    obtain ⟨rfl, rfl⟩ := Prod.mk.inj (Option.some.inj same)
    exact .inl (by simp [nonempty])
  of_append {cs a r s} _ _ found left := by
    obtain ⟨_, same⟩ := Option.ite_none_left_eq_some.mp found
    obtain ⟨rfl, rfl⟩ := Prod.mk.inj (Option.some.inj same)
    have nonempty : cs ≠ [] := by
      rintro rfl
      rw [List.nil_append] at left
      omega
    exact ⟨cs, if_neg nonempty, rfl⟩

theorem local_advance? (free : Bool) (h : Local n least spare read) (enough : 1 ≤ least + spare) :
    Local n least spare fun cs => (advance? free cs).bind read := by
  have both := ((local_dropFree free).dropped (local_nonempty ())).bind (fun _ => h) enough
  rw [Nat.zero_add] at both
  refine both.congr fun cs => ?_
  unfold advance?
  cases dropFree free cs <;> rfl

theorem advance?_length {free : Bool} {cs rest : List Char} (found : advance? free cs = some rest) :
    rest.length ≤ cs.length := by
  have shorter := (dropFree_suffix free cs).length_le
  unfold advance? at found
  split at found
  · exact nomatch found
  · obtain rfl := Option.some.inj found
    exact shorter

theorem dropWhile_append_of_stops {p : Char → Bool} (closing : p ')' = false)
    (dollar : p '$' = false) (cs : List Char) {s : List Char} (stops : Stops s) :
    (cs ++ s).dropWhile p = cs.dropWhile p ++ s := by
  have kept : s.dropWhile p = s := by
    cases s with
    | nil => rfl
    | cons c rest => rcases stops c rfl with rfl | rfl <;> simp [closing, dollar]
  rw [List.dropWhile_append, kept]
  cases cs.dropWhile p <;> rfl

theorem local_dropWhile {p : Char → Bool} (closing : p ')' = false) (dollar : p '$' = false) :
    Local n 0 0 fun cs => some ((), cs.dropWhile p) := by
  refine .of_stops (fun cs => List.dropWhile_suffix p) fun cs s stops => ?_
  exact congrArg (Prod.mk ()) (dropWhile_append_of_stops closing dollar cs stops)

end ReadoutControl.Regex
