import ReadoutControl.Regex.CharSet

set_option autoImplicit false

/-!
Bisection finds what lies in a set of ranges, as long as the ranges stand in order and apart.
-/

namespace ReadoutControl.Unicode.CodeRanges

/-- The ranges stand in increasing order, and none of them is empty. -/
structure Ordered (s : CodeRanges) : Prop where
  apart : s.ranges.toList.Pairwise fun a b => a.2 < b.1
  filled : ∀ range ∈ s.ranges.toList, range.1 ≤ range.2

theorem Ordered.below {s : CodeRanges} (ordered : s.Ordered) {i j : Nat} {a b : Nat × Nat}
    (first : s.ranges[i]? = some a) (second : s.ranges[j]? = some b) (before : i < j) :
    a.2 < b.1 := by
  rw [← Array.getElem?_toList] at first second
  obtain ⟨hi, rfl⟩ := List.getElem?_eq_some_iff.mp first
  obtain ⟨hj, rfl⟩ := List.getElem?_eq_some_iff.mp second
  exact List.pairwise_iff_getElem.mp ordered.apart i j hi hj before

theorem Ordered.le {s : CodeRanges} (ordered : s.Ordered) {i : Nat} {a : Nat × Nat}
    (here : s.ranges[i]? = some a) : a.1 ≤ a.2 := by
  rw [← Array.getElem?_toList] at here
  exact ordered.filled a (List.mem_of_getElem? here)

theorem containsBetween_iff {s : CodeRanges} (ordered : s.Ordered) {code low high : Nat}
    (within : high ≤ s.ranges.size) :
    s.containsBetween code low high = true ↔
      ∃ i, low ≤ i ∧ i < high ∧ ∃ a, s.ranges[i]? = some a ∧ a.1 ≤ code ∧ code ≤ a.2 := by
  fun_induction containsBetween s code low high with
  | case1 low high bounded middle missing =>
    have := Array.getElem?_eq_none_iff.mp missing
    omega
  | case2 low high bounded middle first last here less ih =>
    rw [ih (by omega)]
    constructor
    · exact fun ⟨i, above, under, found⟩ => ⟨i, above, by omega, found⟩
    · rintro ⟨i, above, under, a, there, start, stop⟩
      refine ⟨i, above, ?_, a, there, start, stop⟩
      rcases Nat.lt_trichotomy i middle with before | same | after
      · exact before
      · rw [same, here] at there
        obtain rfl := Option.some.inj there
        omega
      · have := ordered.below here there after
        have := ordered.le here
        omega
  | case3 low high bounded middle first last here notLess more ih =>
    rw [ih within]
    constructor
    · exact fun ⟨i, above, under, found⟩ => ⟨i, by omega, under, found⟩
    · rintro ⟨i, above, under, a, there, start, stop⟩
      refine ⟨i, ?_, under, a, there, start, stop⟩
      rcases Nat.lt_trichotomy i middle with before | same | after
      · have := ordered.below there here before
        have := ordered.le here
        omega
      · rw [same, here] at there
        obtain rfl := Option.some.inj there
        omega
      · exact after
  | case4 low high bounded middle first last here notLess notMore =>
    simp only [true_iff]
    exact ⟨middle, by omega, by omega, _, here, by omega, by omega⟩
  | case5 low high unbounded =>
    simp only [Bool.false_eq_true, false_iff]
    rintro ⟨i, above, under, _⟩
    omega

/-- A code is in the set exactly when it lies in one of the ranges. -/
theorem contains_iff {s : CodeRanges} (ordered : s.Ordered) (code : Nat) :
    s.contains code = true ↔ ∃ range ∈ s.ranges.toList, range.1 ≤ code ∧ code ≤ range.2 := by
  rw [contains, containsBetween_iff ordered (Nat.le_refl _)]
  constructor
  · rintro ⟨i, _, _, a, here, found⟩
    rw [← Array.getElem?_toList] at here
    exact ⟨a, List.mem_of_getElem? here, found⟩
  · rintro ⟨a, member, found⟩
    obtain ⟨i, here⟩ := List.mem_iff_getElem?.mp member
    rw [Array.getElem?_toList] at here
    exact ⟨i, Nat.zero_le _, (Array.getElem?_eq_some_iff.mp here).1, a, here, found⟩

end ReadoutControl.Unicode.CodeRanges

namespace ReadoutControl.Regex.CharSet

theorem has_single {c d : Char} : (single c).has d = true ↔ d = c := by
  have ordered : (single c).Ordered := ⟨by simp [single, Unicode.CodeRanges.between],
    by simp [single, Unicode.CodeRanges.between]⟩
  rw [has, Unicode.CodeRanges.contains_iff ordered, ← Char.toNat_inj]
  simp [single, Unicode.CodeRanges.between, Nat.le_antisymm_iff, and_comm]

/-- Any character but the line feed. -/
theorem has_compl_newline {c : Char} :
    has (single '\n').compl c = true ↔ c ≠ '\n' := by
  have ranges : (single '\n').compl.ranges.toList = [(0, 9), (11, 0x10FFFF)] := by decide
  have ordered : (single '\n').compl.Ordered := ⟨by simp [ranges], by simp [ranges]⟩
  have top : c.toNat < 0x110000 := by
    rcases c.valid with low | high
    · exact Nat.lt_trans low (by decide)
    · exact high.2
  have newline : '\n'.toNat = 10 := rfl
  rw [has, Unicode.CodeRanges.contains_iff ordered, ranges, ne_eq, ← Char.toNat_inj, newline]
  simp only [List.mem_cons, List.not_mem_nil, or_false, exists_eq_or_imp, exists_eq_left]
  omega

end ReadoutControl.Regex.CharSet
