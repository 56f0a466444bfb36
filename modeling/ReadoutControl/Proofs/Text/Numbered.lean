import ReadoutControl.Proofs.Number.Digits
import ReadoutControl.Text.Numbered

set_option autoImplicit false

/-!
Numbered names are told apart by their stem and their number, as long as no stem ends in a digit.
A roster lists names that stand alone and families of numbered ones; its names are distinct when its
stems are.
-/

namespace ReadoutControl.Text

open Decimal (digitChars_inj digitChars_ne_nil isDigit_of_mem_digitChars)

/-- Whether digits may follow without joining digits at the end. -/
def isStem (s : String) : Bool := !s.toList.getLast?.any Char.isDigit

theorem toList_numbered (stem : String) (i : Nat) :
    (numbered stem i).toList = stem.toList ++ Decimal.digitChars i := by
  simp [numbered]

theorem isStem_numbered (stem : String) (i : Nat) : isStem (numbered stem i) = false := by
  have last := List.getLast?_eq_some_getLast (digitChars_ne_nil i)
  have digit := isDigit_of_mem_digitChars (List.getLast_mem (digitChars_ne_nil i))
  simp [isStem, toList_numbered, List.getLast?_append, last, digit]

theorem numbered_ne {name : String} (h : isStem name = true) (stem : String) (i : Nat) :
    numbered stem i ≠ name := by
  rintro rfl
  rw [isStem_numbered] at h
  contradiction

/-- Without the digits at its end a numbered name is its stem. -/
theorem dropWhile_numbered {stem : String} (h : isStem stem = true) (i : Nat) :
    (numbered stem i).toList.reverse.dropWhile Char.isDigit = stem.toList.reverse := by
  have digits : ∀ c ∈ (Decimal.digitChars i).reverse, c.isDigit = true := fun c hc =>
    isDigit_of_mem_digitChars (List.mem_reverse.mp hc)
  rw [toList_numbered, List.reverse_append, List.dropWhile_append_of_pos digits]
  cases hs : stem.toList.reverse with
  | nil => rfl
  | cons c rest =>
    have last : stem.toList.getLast? = some c := by simp [← List.head?_reverse, hs]
    have other : c.isDigit = false := by simpa [isStem, last] using h
    simp [other]

/-- A name without the digits at its end. -/
def stem (name : String) : String :=
  String.ofList (name.toList.reverse.dropWhile Char.isDigit).reverse

theorem stem_numbered {s : String} (h : isStem s = true) (i : Nat) : stem (numbered s i) = s := by
  rw [stem, dropWhile_numbered h, List.reverse_reverse, String.ofList_toList]

theorem stem_of_isStem {name : String} (h : isStem name = true) : stem name = name := by
  have kept : name.toList.reverse.dropWhile Char.isDigit = name.toList.reverse := by
    cases chars : name.toList.reverse with
    | nil => rfl
    | cons c rest =>
      have last : name.toList.getLast? = some c := by simp [← List.head?_reverse, chars]
      have other : c.isDigit = false := by simpa [isStem, last] using h
      exact List.dropWhile_cons_of_neg (by simp [other])
  rw [stem, kept, List.reverse_reverse, String.ofList_toList]

theorem numbered_inj {a b : String} {i j : Nat} (ha : isStem a = true) (hb : isStem b = true) :
    numbered a i = numbered b j ↔ a = b ∧ i = j := by
  constructor
  · intro h
    have stems : a.toList.reverse = b.toList.reverse := by
      rw [← dropWhile_numbered ha i, ← dropWhile_numbered hb j, h]
    have same : a = b := String.toList_injective (List.reverse_inj.mp stems)
    have texts := congrArg String.toList h
    rw [toList_numbered, toList_numbered, same] at texts
    exact ⟨same, digitChars_inj (List.append_cancel_left texts)⟩
  · rintro ⟨rfl, rfl⟩
    rfl

/-- Names that stand alone, then for every stem one name for each of its numbers. -/
def roster (singles : List String) (families : List (String × List Nat)) : List String :=
  singles ++ families.flatMap fun family => family.2.map (numbered family.1)

theorem mem_roster {singles : List String} {families : List (String × List Nat)} {name : String} :
    name ∈ roster singles families ↔
      name ∈ singles ∨ ∃ family ∈ families, ∃ i ∈ family.2, numbered family.1 i = name := by
  simp [roster]

theorem numbered_mem_roster {singles : List String} {families : List (String × List Nat)}
    {stem : String} {numbers : List Nat} {i : Nat} (family : (stem, numbers) ∈ families)
    (number : i ∈ numbers) : numbered stem i ∈ roster singles families :=
  mem_roster.mpr (.inr ⟨_, family, i, number, rfl⟩)

/-- What makes the names of a roster distinct. -/
structure Distinct (singles : List String) (families : List (String × List Nat)) : Prop where
  singles_nodup : singles.Nodup
  stems_nodup : (families.map (·.1)).Nodup
  singles_stem : ∀ name ∈ singles, isStem name = true
  stems_stem : ∀ stem ∈ families.map (·.1), isStem stem = true
  numbers_nodup : ∀ family ∈ families, family.2.Nodup

/-- In a roster a name that has no digits at its end is the only one with its stem. -/
theorem eq_of_stem {singles : List String} {families : List (String × List Nat)}
    (distinct : Distinct singles families) {single name : String}
    (apart : single ∉ families.map (·.1)) (member : name ∈ roster singles families)
    (same : stem name = single) : name = single := by
  rcases mem_roster.mp member with other | ⟨family, listed, i, _, rfl⟩
  · rwa [stem_of_isStem (distinct.singles_stem name other)] at same
  · have key := List.mem_map_of_mem (f := (·.1)) listed
    rw [stem_numbered (distinct.stems_stem _ key)] at same
    exact absurd (same ▸ key) apart

theorem nodup_family {stem : String} {numbers : List Nat} (h : isStem stem = true)
    (distinct : numbers.Nodup) : (numbers.map (numbered stem)).Nodup :=
  List.Pairwise.map _ (fun _ _ different same => different ((numbered_inj h h).mp same).2) distinct

theorem nodup_families {families : List (String × List Nat)}
    (stems : (families.map (·.1)).Nodup) (stem : ∀ s ∈ families.map (·.1), isStem s = true)
    (numbers : ∀ family ∈ families, family.2.Nodup) :
    (families.flatMap fun family => family.2.map (numbered family.1)).Nodup := by
  induction families with
  | nil => exact .nil
  | cons family rest ih =>
    simp only [List.map_cons, List.nodup_cons, List.forall_mem_cons] at stems stem numbers
    rw [List.flatMap_cons, List.nodup_append]
    refine ⟨nodup_family stem.1 numbers.1, ih stems.2 stem.2 numbers.2, ?_⟩
    intro name here other there same
    obtain ⟨i, _, rfl⟩ := List.mem_map.mp here
    obtain ⟨next, member, found⟩ := List.mem_flatMap.mp there
    obtain ⟨j, _, rfl⟩ := List.mem_map.mp found
    have nextStem := List.mem_map_of_mem (f := (·.1)) member
    have equal := ((numbered_inj stem.1 (stem.2 _ nextStem)).mp same).1
    exact stems.1 (equal ▸ nextStem)

theorem Distinct.nodup_roster {singles : List String} {families : List (String × List Nat)}
    (h : Distinct singles families) : (roster singles families).Nodup := by
  refine List.nodup_append.mpr
    ⟨h.singles_nodup, nodup_families h.stems_nodup h.stems_stem h.numbers_nodup, ?_⟩
  intro name single other member
  obtain ⟨family, _, found⟩ := List.mem_flatMap.mp member
  obtain ⟨i, _, rfl⟩ := List.mem_map.mp found
  exact (numbered_ne (h.singles_stem name single) family.1 i).symm

end ReadoutControl.Text
