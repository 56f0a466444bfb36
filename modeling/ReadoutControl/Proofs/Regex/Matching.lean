import ReadoutControl.Proofs.Unicode.Ranges
import ReadoutControl.Regex.Matcher

set_option autoImplicit false

/-!
The matcher finds exactly the matches. Sets of positions are followed through a repetition by
counting steps; since a match never goes back, steps that stay in place can be left out, and as many
steps as the text has characters reach everything.
-/

namespace ReadoutControl.Regex

theorem mem_merge {as bs : List Nat} {x : Nat} : x ∈ merge as bs ↔ x ∈ as ∨ x ∈ bs := by
  fun_induction merge as bs with
  | case1 => simp
  | case2 => simp
  | case3 a as b bs _ ih => simp only [List.mem_cons, ih, or_assoc]
  | case4 a as b bs _ _ ih =>
    simp only [List.mem_cons, ih]
    exact or_left_comm
  | case5 a as b bs _ _ ih =>
    obtain rfl : a = b := by omega
    simp only [List.mem_cons, ih]
    constructor
    · rintro (same | left | right)
      · exact .inl (.inl same)
      · exact .inl (.inr left)
      · exact .inr (.inr right)
    · rintro ((same | left) | (same | right))
      · exact .inl same
      · exact .inr (.inl left)
      · exact .inl same
      · exact .inr (.inr right)

theorem mem_of_mem_without {as bs : List Nat} {x : Nat} (member : x ∈ without as bs) : x ∈ as := by
  fun_induction without as bs with
  | case1 => exact member
  | case2 => exact member
  | case3 a as b bs _ ih =>
    rcases List.mem_cons.mp member with rfl | later
    · exact List.mem_cons_self ..
    · exact List.mem_cons_of_mem _ (ih later)
  | case4 a as b bs _ _ ih => exact ih member
  | case5 a as b bs _ _ ih => exact List.mem_cons_of_mem _ (ih member)

theorem mem_without {as bs : List Nat} {x : Nat} (member : x ∈ as) (absent : x ∉ bs) :
    x ∈ without as bs := by
  fun_induction without as bs with
  | case1 => exact member
  | case2 => exact member
  | case3 a as b bs _ ih =>
    rcases List.mem_cons.mp member with rfl | later
    · exact List.mem_cons_self ..
    · exact List.mem_cons_of_mem _ (ih later absent)
  | case4 a as b bs _ _ ih => exact ih member fun later => absent (List.mem_cons_of_mem _ later)
  | case5 a as b bs _ _ ih =>
    obtain rfl : a = b := by omega
    rcases List.mem_cons.mp member with rfl | later
    · exact absurd (List.mem_cons_self ..) absent
    · exact ih later fun repeated => absent (List.mem_cons_of_mem _ repeated)

/-- `Steps R n i j`: a chain of `n` steps leads from `i` to `j`. -/
inductive Steps (R : Nat → Nat → Prop) : Nat → Nat → Nat → Prop
  | done {i} : Steps R 0 i i
  | more {n i j k} : R i j → Steps R n j k → Steps R (n + 1) i k

namespace Steps

variable {R : Nat → Nat → Prop}

theorem add_iff {m n i k : Nat} :
    Steps R (m + n) i k ↔ ∃ j, Steps R m i j ∧ Steps R n j k := by
  induction m generalizing i with
  | zero =>
    rw [Nat.zero_add]
    constructor
    · exact fun rest => ⟨i, .done, rest⟩
    · rintro ⟨_, ⟨⟩, rest⟩
      exact rest
  | succ m ih =>
    rw [Nat.succ_add]
    constructor
    · rintro (_ | ⟨step, rest⟩)
      obtain ⟨j, first, second⟩ := ih.mp rest
      exact ⟨j, .more step first, second⟩
    · rintro ⟨j, _ | ⟨step, first⟩, second⟩
      exact .more step (ih.mpr ⟨j, first, second⟩)

/-- Where steps never go back, those that stay in place can be left out. -/
theorem shorten (forward : ∀ i j, R i j → i ≤ j) {n i k : Nat} (steps : Steps R n i k) :
    i ≤ k ∧ ∃ m ≤ n, m ≤ k - i ∧ Steps R m i k := by
  induction steps with
  | done => exact ⟨Nat.le_refl _, 0, Nat.le_refl _, Nat.zero_le _, .done⟩
  | @more n i j k step rest ih =>
    obtain ⟨later, m, fewer, short, chain⟩ := ih
    have first := forward i j step
    refine ⟨Nat.le_trans first later, ?_⟩
    by_cases stays : i = j
    · subst stays
      exact ⟨m, by omega, short, chain⟩
    · exact ⟨m + 1, by omega, by omega, .more step chain⟩

theorem mem_of_closed {seen : List Nat} (closed : ∀ i ∈ seen, ∀ k, R i k → k ∈ seen) {n i j : Nat}
    (steps : Steps R n i j) (member : i ∈ seen) : j ∈ seen := by
  induction steps with
  | done => exact member
  | more related _ ih => exact ih (closed _ member _ related)

theorem le_of_stays {bound : Nat} (stays : ∀ i j, R i j → j ≤ bound) {n i j : Nat}
    (steps : Steps R n i j) (within : i ≤ bound) : j ≤ bound := by
  induction steps with
  | done => exact within
  | more related _ ih => exact ih (stays _ _ related)

end Steps

/-- `step` takes a set of positions to all that one step of `R` reaches, and `R` stays within the
bound. -/
structure Follows (bound : Nat) (step : List Nat → List Nat) (R : Nat → Nat → Prop) : Prop where
  stays : ∀ i j, R i j → j ≤ bound
  mem_step : ∀ starts : List Nat, (∀ i ∈ starts, i ≤ bound) →
    ∀ j, j ∈ step starts ↔ ∃ i ∈ starts, R i j

namespace Follows

variable {bound : Nat} {step : List Nat → List Nat} {R : Nat → Nat → Prop}

theorem step_le (follows : Follows bound step R) {starts : List Nat}
    (within : ∀ i ∈ starts, i ≤ bound) : ∀ j ∈ step starts, j ≤ bound := by
  intro j reached
  obtain ⟨i, _, related⟩ := (follows.mem_step starts within j).mp reached
  exact follows.stays i j related

theorem iterate_of_fixed {positions : List Nat} (fixed : step positions = positions) (n : Nat) :
    iterate step n positions = positions := by
  cases n with
  | zero => rfl
  | succ n => simp [iterate, fixed]

theorem iterate_succ (n : Nat) (positions : List Nat) :
    iterate step (n + 1) positions = iterate step n (step positions) := by
  simp only [iterate]
  split
  · next fixed =>
    rw [beq_iff_eq.mp fixed, iterate_of_fixed (beq_iff_eq.mp fixed)]
  · rfl

theorem mem_iterate (follows : Follows bound step R) {n j : Nat} {starts : List Nat}
    (within : ∀ i ∈ starts, i ≤ bound) :
    j ∈ iterate step n starts ↔ ∃ i ∈ starts, Steps R n i j := by
  induction n generalizing starts with
  | zero =>
    constructor
    · exact fun member => ⟨j, member, .done⟩
    · rintro ⟨_, member, ⟨⟩⟩
      exact member
  | succ n ih =>
    rw [iterate_succ, ih (follows.step_le within)]
    constructor
    · rintro ⟨i, reached, rest⟩
      obtain ⟨start, member, related⟩ := (follows.mem_step starts within i).mp reached
      exact ⟨start, member, .more related rest⟩
    · rintro ⟨start, member, _ | ⟨related, rest⟩⟩
      exact ⟨_, (follows.mem_step starts within _).mpr ⟨start, member, related⟩, rest⟩

/-- The invariant of the search: whatever is one step away from a seen position has been seen or is
one step away from the frontier. -/
theorem mem_reach (follows : Follows bound step R) {n j : Nat} {seen frontier : List Nat}
    (within : ∀ i ∈ seen, i ≤ bound) (inside : ∀ i ∈ frontier, i ∈ seen)
    (explored : ∀ i ∈ seen, ∀ k, R i k → k ∈ seen ∨ ∃ f ∈ frontier, R f k) :
    j ∈ reach step n seen frontier ↔ ∃ i ∈ seen, ∃ m ≤ n, Steps R m i j := by
  induction n generalizing seen frontier with
  | zero =>
    constructor
    · exact fun member => ⟨j, member, 0, Nat.le_refl _, .done⟩
    · rintro ⟨i, member, m, none, steps⟩
      obtain rfl : m = 0 := by omega
      cases steps
      exact member
  | succ n ih =>
    have reached := follows.mem_step frontier fun i member => within i (inside i member)
    have next : ∀ i ∈ seen, ∀ k, R i k → k ∈ seen ∨ k ∈ without (step frontier) seen := by
      intro i member k related
      by_cases old : k ∈ seen
      · exact .inl old
      · rcases explored i member k related with old | found
        · exact .inl old
        · exact .inr (mem_without ((reached k).mpr found) old)
    simp only [reach]
    split
    · next nothing =>
      simp only [nothing, List.not_mem_nil, or_false] at next
      exact ⟨fun member => ⟨j, member, 0, Nat.zero_le _, .done⟩,
        fun ⟨_, member, _, _, steps⟩ => steps.mem_of_closed next member⟩
    · have origin : ∀ k ∈ without (step frontier) seen, ∃ f ∈ frontier, R f k :=
        fun k added => (reached k).mp (mem_of_mem_without added)
      have within' : ∀ i ∈ merge seen (without (step frontier) seen), i ≤ bound := by
        intro i member
        rcases mem_merge.mp member with old | added
        · exact within i old
        · obtain ⟨f, _, related⟩ := origin i added
          exact follows.stays f i related
      have explored' : ∀ i ∈ merge seen (without (step frontier) seen), ∀ k, R i k →
          k ∈ merge seen (without (step frontier) seen) ∨
            ∃ f ∈ without (step frontier) seen, R f k := by
        intro i member k related
        rcases mem_merge.mp member with old | added
        · exact .inl (mem_merge.mpr (next i old k related))
        · exact .inr ⟨i, added, related⟩
      rw [ih within' (fun i added => mem_merge.mpr (.inr added)) explored']
      constructor
      · rintro ⟨i, member, m, few, steps⟩
        rcases mem_merge.mp member with old | added
        · exact ⟨i, old, m, by omega, steps⟩
        · obtain ⟨f, front, related⟩ := origin i added
          exact ⟨f, inside f front, m + 1, by omega, .more related steps⟩
      · rintro ⟨i, member, m, few, steps⟩
        cases steps with
        | done => exact ⟨j, mem_merge.mpr (.inl member), 0, Nat.zero_le _, .done⟩
        | @more m _ k _ related rest =>
          exact ⟨k, mem_merge.mpr (next i member k related), m, by omega, rest⟩

end Follows

/-- Every repetition allows as many times as it asks for. -/
def Proper : Regex → Prop
  | .seq a b => a.Proper ∧ b.Proper
  | .alt a b => a.Proper ∧ b.Proper
  | .rep r least most _ => r.Proper ∧ ∀ n, most = some n → least ≤ n
  | .group r _ => r.Proper
  | _ => True

namespace Matches

variable {text : Array Char} {r : Regex} {i j k : Nat}

theorem bounds (found : Matches text r i j) : i ≤ j ∧ j ≤ text.size := by
  induction found with
  | empty within => exact ⟨Nat.le_refl _, within⟩
  | chars here _ => exact ⟨Nat.le_succ _, (Array.getElem?_eq_some_iff.mp here).1⟩
  | look within _ => exact ⟨Nat.le_refl _, within⟩
  | seq _ _ first second => exact ⟨Nat.le_trans first.1 second.1, second.2⟩
  | altLeft _ ih => exact ih
  | altRight _ ih => exact ih
  | repStop within => exact ⟨Nat.le_refl _, within⟩
  | repMore _ _ _ first second => exact ⟨Nat.le_trans first.1 second.1, second.2⟩
  | group _ ih => exact ih

theorem steps_of_rep {least : Nat} {most : Option Nat} {few : Bool}
    (found : Matches text (.rep r least most few) i k) :
    ∃ n, least ≤ n ∧ (∀ m, most = some m → n ≤ m) ∧ Steps (Matches text r) n i k := by
  generalize whole : Regex.rep r least most few = repetition at found
  induction found generalizing least most with
  | repStop _ =>
    cases whole
    exact ⟨0, Nat.le_refl _, fun _ _ => Nat.zero_le _, .done⟩
  | repMore allowed once _ _ ih =>
    cases whole
    obtain ⟨n, enough, limit, rest⟩ := ih rfl
    refine ⟨n + 1, by omega, ?_, .more once rest⟩
    rintro m rfl
    have below := limit (m - 1) rfl
    have positive : m ≠ 0 := fun zero => allowed (congrArg some zero)
    omega
  | _ => cases whole

theorem rep_of_steps {n least : Nat} {most : Option Nat} {few : Bool} (within : i ≤ text.size)
    (enough : least ≤ n) (limit : ∀ m, most = some m → n ≤ m)
    (steps : Steps (Matches text r) n i k) : Matches text (.rep r least most few) i k := by
  induction n generalizing i least most with
  | zero =>
    obtain rfl : least = 0 := by omega
    cases steps
    exact .repStop within
  | succ n ih =>
    cases steps with
    | more once rest =>
      refine .repMore ?_ once (ih once.bounds.2 (by omega) ?_ rest)
      · intro zero
        have := limit 0 zero
        omega
      · intro m same
        obtain ⟨top, rfl, rfl⟩ := Option.map_eq_some_iff.mp same
        have := limit top rfl
        omega

end Matches

variable {text : Array Char}

/-- How far a repetition is searched beyond the times it asks for. -/
def extraSteps (text : Array Char) (least : Nat) : Option Nat → Nat
  | none => text.size + 1
  | some most => min (most - least) (text.size + 1)

/-- As many steps as the text has characters are enough. -/
theorem steps_beyond_iff {r : Regex} {least i j : Nat} {most : Option Nat} (within : i ≤ text.size)
    (proper : ∀ n, most = some n → least ≤ n) :
    (∃ n, least ≤ n ∧ (∀ m, most = some m → n ≤ m) ∧ Steps (Matches text r) n i j) ↔
      ∃ k, Steps (Matches text r) least i k ∧
        ∃ n ≤ extraSteps text least most, Steps (Matches text r) n k j := by
  constructor
  · rintro ⟨n, enough, limit, steps⟩
    obtain ⟨extra, rfl⟩ := Nat.exists_eq_add_of_le enough
    obtain ⟨k, first, second⟩ := Steps.add_iff.mp steps
    have k_le := first.le_of_stays (fun _ _ found => found.bounds.2) within
    have j_le := second.le_of_stays (fun _ _ found => found.bounds.2) k_le
    obtain ⟨m, fewer, short, chain⟩ := (second.shorten fun _ _ found => found.bounds.1).2
    refine ⟨k, first, m, ?_, chain⟩
    cases most with
    | none =>
      simp only [extraSteps]
      omega
    | some top =>
      have := limit top rfl
      simp only [extraSteps]
      omega
  · rintro ⟨k, first, n, few, second⟩
    refine ⟨least + n, Nat.le_add_right .., ?_, Steps.add_iff.mpr ⟨k, first, second⟩⟩
    rintro top rfl
    have := proper top rfl
    simp only [extraSteps] at few
    omega

theorem mem_endsOf_rep {r : Regex} {least j : Nat} {most : Option Nat} {few : Bool}
    {starts : List Nat} (follows : Follows text.size (endsOf text r) (Matches text r))
    (proper : ∀ n, most = some n → least ≤ n) (within : ∀ i ∈ starts, i ≤ text.size) :
    j ∈ endsOf text (.rep r least most few) starts ↔
      ∃ i ∈ starts, Matches text (.rep r least most few) i j := by
  have begun (k : Nat) := follows.mem_iterate (n := least) (j := k) within
  have begun_le : ∀ k ∈ iterate (endsOf text r) least starts, k ≤ text.size := by
    intro k member
    obtain ⟨i, start, steps⟩ := (begun k).mp member
    exact steps.le_of_stays follows.stays (within i start)
  have unfolded : endsOf text (.rep r least most few) starts =
      reach (endsOf text r) (extraSteps text least most)
        (iterate (endsOf text r) least starts) (iterate (endsOf text r) least starts) := by
    cases most <;> rfl
  rw [unfolded, follows.mem_reach begun_le (fun _ member => member)
    fun i member k found => .inr ⟨i, member, found⟩]
  constructor
  · rintro ⟨k, member, n, few, steps⟩
    obtain ⟨i, start, first⟩ := (begun k).mp member
    obtain ⟨n, enough, limit, all⟩ :=
      (steps_beyond_iff (within i start) proper).mpr ⟨k, first, n, few, steps⟩
    exact ⟨i, start, .rep_of_steps (within i start) enough limit all⟩
  · rintro ⟨i, start, found⟩
    obtain ⟨k, first, n, few, steps⟩ :=
      (steps_beyond_iff (within i start) proper).mp found.steps_of_rep
    exact ⟨k, (begun k).mpr ⟨i, start, first⟩, n, few, steps⟩

/-- From a set of positions the matcher reaches the ends of the matches that begin there. -/
theorem follows_endsOf {r : Regex} (proper : r.Proper) :
    Follows text.size (endsOf text r) (Matches text r) := by
  refine ⟨fun _ _ found => found.bounds.2, ?_⟩
  induction r with
  | empty =>
    intro starts within j
    constructor
    · exact fun member => ⟨j, member, .empty (within j member)⟩
    · rintro ⟨_, member, ⟨⟩⟩
      exact member
  | chars set =>
    intro starts within j
    simp only [endsOf, List.mem_filterMap]
    constructor
    · rintro ⟨i, member, found⟩
      split at found
      · next c here =>
        obtain ⟨has, next⟩ := Option.ite_none_right_eq_some.mp found
        obtain rfl := Option.some.inj next
        exact ⟨i, member, .chars here has⟩
      · simp at found
    · rintro ⟨i, member, ⟨⟩⟩
      next c here has => exact ⟨i, member, by simp [here, has]⟩
  | look l =>
    intro starts within j
    simp only [endsOf, List.mem_filter]
    constructor
    · exact fun ⟨member, holds⟩ => ⟨j, member, .look (within j member) holds⟩
    · rintro ⟨_, member, ⟨⟩⟩
      next _ holds => exact ⟨member, holds⟩
  | seq a b first second =>
    intro starts within j
    have middle : Follows text.size (endsOf text a) (Matches text a) :=
      ⟨fun _ _ found => found.bounds.2, first proper.1⟩
    rw [endsOf, second proper.2 _ (middle.step_le within)]
    constructor
    · rintro ⟨k, reached, found⟩
      obtain ⟨i, member, before⟩ := (first proper.1 starts within k).mp reached
      exact ⟨i, member, .seq before found⟩
    · rintro ⟨i, member, ⟨⟩⟩
      next k before found =>
        exact ⟨k, (first proper.1 starts within k).mpr ⟨i, member, before⟩, found⟩
  | alt a b first second =>
    intro starts within j
    rw [endsOf, mem_merge, first proper.1 starts within, second proper.2 starts within]
    constructor
    · rintro (⟨i, member, found⟩ | ⟨i, member, found⟩)
      · exact ⟨i, member, .altLeft found⟩
      · exact ⟨i, member, .altRight found⟩
    · rintro ⟨i, member, found⟩
      cases found with
      | altLeft found => exact .inl ⟨i, member, found⟩
      | altRight found => exact .inr ⟨i, member, found⟩
  | rep r least most few ih =>
    intro starts within j
    exact mem_endsOf_rep ⟨fun _ _ found => found.bounds.2, ih proper.1⟩ proper.2 within
  | group r remembers ih =>
    intro starts within j
    rw [endsOf, ih proper starts within]
    constructor
    · exact fun ⟨i, member, found⟩ => ⟨i, member, .group found⟩
    · rintro ⟨i, member, ⟨⟩⟩
      next found => exact ⟨i, member, found⟩

/-- The matcher tells whether some part of the text matches. -/
theorem isMatch_iff {r : Regex} (proper : r.Proper) (text : String) :
    r.isMatch text = true ↔ ∃ i j, Matches text.toList.toArray r i j := by
  have within : ∀ i ∈ List.range (text.toList.toArray.size + 1), i ≤ text.toList.toArray.size :=
    fun i member => Nat.le_of_lt_succ (List.mem_range.mp member)
  have follows : Follows text.toList.toArray.size (endsOf text.toList.toArray r)
      (Matches text.toList.toArray r) := follows_endsOf proper
  have reached := follows.mem_step _ within
  simp only [isMatch, Bool.not_eq_true', List.isEmpty_eq_false_iff_exists_mem, reached]
  constructor
  · exact fun ⟨j, i, _, found⟩ => ⟨i, j, found⟩
  · rintro ⟨i, j, found⟩
    have ends := found.bounds
    exact ⟨j, i, List.mem_range.mpr (by omega), found⟩

section Composed

variable {cs : List Char} {set : CharSet} {i j : Nat}

theorem matches_chars_iff :
    Matches cs.toArray (.chars set) i j ↔ ∃ c, cs[i]? = some c ∧ set.has c = true ∧ j = i + 1 := by
  constructor
  · intro found
    cases found with
    | chars here has => exact ⟨_, by simpa using here, has, rfl⟩
  · rintro ⟨c, here, has, rfl⟩
    exact .chars (by simpa using here) has

theorem matches_single_iff {c : Char} :
    Matches cs.toArray (.chars (CharSet.single c)) i j ↔ cs[i]? = some c ∧ j = i + 1 := by
  rw [matches_chars_iff]
  constructor
  · rintro ⟨d, here, has, rfl⟩
    obtain rfl := CharSet.has_single.mp has
    exact ⟨here, rfl⟩
  · rintro ⟨here, rfl⟩
    exact ⟨c, here, CharSet.has_single.mpr rfl, rfl⟩

theorem concat_cons {r : Regex} {rest : List Regex} (more : rest ≠ []) :
    concat (r :: rest) = .seq r (concat rest) := by
  cases rest with
  | nil => contradiction
  | cons => rfl

theorem proper_concat {rs : List Regex} (each : ∀ r ∈ rs, r.Proper) : (concat rs).Proper := by
  induction rs with
  | nil => trivial
  | cons r rest ih =>
    rw [List.forall_mem_cons] at each
    cases rest with
    | nil => exact each.1
    | cons next rest => exact ⟨each.1, ih each.2⟩

/-- An expression between the start of a text and its end. -/
def whole (r : Regex) : Regex := .seq (.look .textStart) (.seq (.group r false) (.look .textEnd))

theorem isMatch_whole_iff {r : Regex} (proper : r.Proper) (text : String) :
    (whole r).isMatch text = true ↔
      Matches text.toList.toArray r 0 text.toList.length := by
  have all : (whole r).Proper := ⟨trivial, proper, trivial⟩
  rw [isMatch_iff all]
  constructor
  · rintro ⟨i, j, ⟨⟩⟩
    next k start rest =>
      cases start with
      | look _ atStart =>
        cases rest with
        | seq inner stop =>
          cases stop with
          | look _ atEnd =>
            cases inner with
            | group found =>
              obtain rfl : i = 0 := beq_iff_eq.mp atStart
              obtain rfl : j = text.toList.length := by simpa [Look.holds] using atEnd
              exact found
  · intro found
    exact ⟨0, text.toList.length, .seq (.look (Nat.zero_le _) rfl)
      (.seq (.group found) (.look (by simp) (by simp [Look.holds])))⟩

end Composed

end ReadoutControl.Regex
