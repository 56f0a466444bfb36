import ReadoutControl.Command.Family
import ReadoutControl.Proofs.Command.Acceptance
import ReadoutControl.Proofs.Regex.Matching
import ReadoutControl.Proofs.Text.Numbered

set_option autoImplicit false

/-!
What the pattern of a family addresses: the names that begin with its stem and hold no line break
after it. It reaches every numbered name of its stem, and no name that begins otherwise.
-/

namespace ReadoutControl

namespace Regex

variable {cs : List Char} {set : CharSet} {i j : Nat}

/-- A repetition of one set reaches the end of the text when all that remains is in the set. -/
theorem matches_run_iff {few : Bool} (within : i ≤ cs.length) :
    Matches cs.toArray (.rep (.chars set) 0 none few) i cs.length ↔
      ∀ c ∈ cs.drop i, set.has c = true := by
  constructor
  · intro found
    obtain ⟨n, -, -, steps⟩ := found.steps_of_rep
    clear found within
    generalize stop : cs.length = last at steps
    induction steps with
    | done => simp [← stop]
    | more once _ ih =>
      obtain ⟨c, here, has, rfl⟩ := matches_chars_iff.mp once
      obtain ⟨inside, rfl⟩ := List.getElem?_eq_some_iff.mp here
      rw [List.drop_eq_getElem_cons inside, List.forall_mem_cons]
      exact ⟨has, ih stop⟩
  · intro all
    generalize remaining : cs.length - i = n
    refine .rep_of_steps (n := n) (by simpa using within) (Nat.zero_le _) (by simp) ?_
    induction n generalizing i with
    | zero =>
      obtain rfl : i = cs.length := by omega
      exact .done
    | succ n ih =>
      have inside : i < cs.length := by omega
      rw [List.drop_eq_getElem_cons inside, List.forall_mem_cons] at all
      exact .more (matches_chars_iff.mpr ⟨_, List.getElem?_eq_getElem inside, all.1, rfl⟩)
        (ih inside all.2 (by omega))

theorem matches_stem_iff {stem : List Char} {few : Bool} (within : i ≤ cs.length) :
    Matches cs.toArray (concat (stem.map (fun c => .chars (.single c)) ++
        [.rep (.chars set) 0 none few])) i cs.length ↔
      ∃ tail, cs.drop i = stem ++ tail ∧ ∀ c ∈ tail, set.has c = true := by
  induction stem generalizing i with
  | nil =>
    simp only [List.map_nil, List.nil_append, concat, matches_run_iff within]
    exact ⟨fun all => ⟨_, rfl, all⟩, fun ⟨tail, same, all⟩ => same ▸ all⟩
  | cons c stem ih =>
    rw [List.map_cons, List.cons_append, concat_cons (by simp)]
    constructor
    · rintro ⟨⟩
      next k once rest =>
        obtain ⟨here, rfl⟩ := matches_single_iff.mp once
        obtain ⟨inside, rfl⟩ := List.getElem?_eq_some_iff.mp here
        obtain ⟨tail, same, all⟩ := (ih inside).mp rest
        exact ⟨tail, by rw [List.drop_eq_getElem_cons inside, same, List.cons_append], all⟩
    · rintro ⟨tail, same, all⟩
      have inside : i < cs.length := by
        have length := congrArg List.length same
        simp only [List.length_drop, List.length_append, List.length_cons] at length
        omega
      rw [List.drop_eq_getElem_cons inside, List.cons_append, List.cons.injEq] at same
      refine .seq (matches_single_iff.mpr ⟨?_, rfl⟩) ((ih inside).mpr ⟨tail, same.2, all⟩)
      rw [List.getElem?_eq_getElem inside, same.1]

/-- What a name that belongs to a family goes on with after its start. -/
def stemBody (stem : String) : Regex :=
  concat (stem.toList.map (fun c => .chars (CharSet.single c)) ++
    [.rep (.chars (CharSet.single '\n').compl) 0 none false])

theorem proper_stemBody (stem : String) : (stemBody stem).Proper := by
  apply proper_concat
  intro r member
  rcases List.mem_append.mp member with chars | rest
  · obtain ⟨c, _, rfl⟩ := List.mem_map.mp chars
    trivial
  · obtain rfl := List.mem_singleton.mp rest
    exact ⟨trivial, by simp⟩

theorem isMatch_ofStem_iff {stem name : String} :
    (ofStem stem).isMatch name = true ↔
      ∃ tail, name.toList = stem.toList ++ tail ∧ '\n' ∉ tail := by
  have body : Matches name.toList.toArray (stemBody stem) 0 name.toList.length ↔
      ∃ tail, name.toList.drop 0 = stem.toList ++ tail ∧
        ∀ c ∈ tail, CharSet.has (CharSet.single '\n').compl c = true :=
    matches_stem_iff (Nat.zero_le _)
  have plain : ∀ tail : List Char,
      (∀ c ∈ tail, CharSet.has (CharSet.single '\n').compl c = true) ↔ '\n' ∉ tail := by
    intro tail
    simp only [CharSet.has_compl_newline]
    exact ⟨fun all member => all _ member rfl, fun absent c member same => absent (same ▸ member)⟩
  simp only [List.drop_zero, plain] at body
  rw [← body]
  exact isMatch_whole_iff (proper_stemBody stem) name

end Regex

namespace Text

/-- Neither of two texts begins with the other. -/
def Apart (a b : String) : Prop := ¬ a.toList <+: b.toList ∧ ¬ b.toList <+: a.toList

instance (a b : String) : Decidable (Apart a b) := inferInstanceAs (Decidable (_ ∧ _))

end Text

namespace NamePattern

open Text (numbered Apart)

variable {p : NamePattern} {stem : String}

theorem matchesName_numbered (family : p.regex = .ofStem stem) (i : Nat) :
    p.matchesName (numbered stem i) = true := by
  rw [matchesName, family, Regex.isMatch_ofStem_iff]
  refine ⟨_, Text.toList_numbered stem i, fun member => ?_⟩
  have digit := Decimal.isDigit_of_mem_digitChars member
  contradiction

theorem matchesName_of_apart (family : p.regex = .ofStem stem) {name : String}
    (apart : Apart stem name) : p.matchesName name = false := by
  rw [← Bool.not_eq_true, matchesName, family, Regex.isMatch_ofStem_iff]
  rintro ⟨tail, same, _⟩
  exact apart.1 (same ▸ List.prefix_append ..)

theorem matchesName_numbered_of_apart (family : p.regex = .ofStem stem) {other : String}
    (apart : Apart stem other) (i : Nat) : p.matchesName (numbered other i) = false := by
  rw [← Bool.not_eq_true, matchesName, family, Regex.isMatch_ofStem_iff]
  rintro ⟨tail, same, _⟩
  have begins : stem.toList <+: (numbered other i).toList := same ▸ List.prefix_append ..
  have continues : other.toList <+: (numbered other i).toList :=
    Text.toList_numbered other i ▸ List.prefix_append ..
  rcases List.prefix_or_prefix_of_prefix begins continues with before | after
  · exact apart.1 before
  · exact apart.2 after

end NamePattern

theorem Address.matchesName_any (name : String) : Address.any.matchesName name = true := by
  have proper : Regex.empty.Proper := trivial
  exact (Regex.isMatch_iff proper name).mpr ⟨0, 0, .empty (Nat.zero_le _)⟩

theorem Command.addresses_of_any {c : Command} (everything : c.targets = [.any]) (name : String) :
    c.Addresses name := by
  rw [addresses_iff_targets, everything]
  exact ⟨.any, List.mem_cons_self .., Address.matchesName_any name⟩

end ReadoutControl
