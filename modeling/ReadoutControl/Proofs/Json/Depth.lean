import ReadoutControl.Json.Printer
import ReadoutControl.Proofs.Json.Value
import ReadoutControl.Proofs.Number.Digits
import ReadoutControl.Proofs.Text.Indented

set_option autoImplicit false

/-!
A value printed further in. Only the printer breaks lines, since strings are escaped and numbers
have none, so the text at a deeper level is the same text with its later lines moved to the right.
-/

namespace ReadoutControl

open Text Decimal

theorem DecimalLayout.newline_notMem_plainText {digits : List Char} (solid : '\n' ∉ digits)
    (keepPoint : Bool) (point : Int) : '\n' ∉ plainText keepPoint digits point := by
  have before : '\n' ∉ digits.take point.toNat := fun member => solid (List.mem_of_mem_take member)
  have after : '\n' ∉ digits.drop point.toNat := fun member => solid (List.mem_of_mem_drop member)
  unfold plainText
  split
  · simp [solid]
  · split
    · cases keepPoint <;> simp [solid]
    · simp [before, after]

theorem Decimal.newline_notMem_digitChars (n : Nat) : '\n' ∉ digitChars n :=
  fun member => absurd (isDigit_of_mem_digitChars member) (by decide)

theorem DecimalLayout.newline_notMem_scientificText {digits : List Char} (solid : '\n' ∉ digits)
    (point : Int) : '\n' ∉ scientificText digits point := by
  have exponent := newline_notMem_digitChars (point - 1).natAbs
  unfold scientificText
  simp only [List.mem_append, not_or]
  constructor
  · match digits with
    | [] => exact solid
    | [d] => exact solid
    | d :: next :: rest => simp_all
  · split <;> simp [exponent]

theorem DecimalLayout.newline_notMem_write (layout : DecimalLayout) (x : Binary64) :
    '\n' ∉ layout.write x := by
  have digits (n : Nat) := newline_notMem_digitChars n
  simp only [write, List.mem_append, not_or]
  constructor
  · split <;> decide
  · split
    · split <;> decide
    · split
      · exact newline_notMem_plainText (digits _) _ _
      · exact newline_notMem_scientificText (digits _) _

namespace Json

theorem newline_notMem_intText (n : Int) : '\n' ∉ intText n := by
  have digits := newline_notMem_digitChars n.natAbs
  unfold intText
  split <;> simp [digits]

theorem newline_notMem_escapeChar (c : Char) : '\n' ∉ escapeChar c := by
  have digits : ∀ n < 32, '\n' ∉ hexPair n := by decide
  unfold escapeChar
  split
  case h_8 _ _ _ _ other _ _ =>
    split
    · next control => simp [digits _ control]
    · simpa using Ne.symm other
  all_goals decide

theorem newline_notMem_quoted (s : String) : '\n' ∉ quoted s := by
  have escaped : '\n' ∉ s.toList.flatMap escapeChar := by
    intro member
    obtain ⟨c, _, inside⟩ := List.mem_flatMap.mp member
    exact newline_notMem_escapeChar c inside
  simp [quoted, escaped]

variable {indent depth more : Nat}

theorem hanging_newline (indent depth more : Nat) :
    hanging (indent * more) (newline indent depth) = newline indent (depth + more) := by
  have blanks : '\n' ∉ List.replicate (indent * depth) ' ' := by simp [List.mem_replicate]
  rw [newline, hanging_cons, if_pos rfl, hanging_of_notMem blanks, newline, List.cons_append,
    List.replicate_append_replicate, Nat.mul_add, Nat.add_comm]

/-- The value is printed `more` levels further in as the same text, moved to the right. -/
def Hangs (indent more : Nat) (v : Json) : Prop :=
  ∀ depth, pretty indent (depth + more) v = hanging (indent * more) (pretty indent depth v)

theorem prettyItems_deeper {items : List Json} (each : ∀ item ∈ items, Hangs indent more item) :
    prettyItems indent (depth + more) items =
      hanging (indent * more) (prettyItems indent depth items) := by
  induction items with
  | nil => simp [prettyItems, hanging_append, hanging_newline, hanging_of_notMem]
  | cons item items ih =>
    rw [List.forall_mem_cons] at each
    have level : depth + more + 1 = depth + 1 + more := Nat.add_right_comm ..
    simp [prettyItems, hanging_cons, hanging_append, hanging_newline, level, each.1 (depth + 1),
      ih each.2]

theorem prettyFields_deeper {fields : List (String × Json)}
    (each : ∀ field ∈ fields, Hangs indent more field.2) :
    prettyFields indent (depth + more) fields =
      hanging (indent * more) (prettyFields indent depth fields) := by
  induction fields with
  | nil => simp [prettyFields, hanging_append, hanging_newline, hanging_of_notMem]
  | cons field fields ih =>
    obtain ⟨key, value⟩ := field
    rw [List.forall_mem_cons] at each
    have level : depth + more + 1 = depth + 1 + more := Nat.add_right_comm ..
    simp [prettyFields, hanging_cons, hanging_append, hanging_newline, level, each.1 (depth + 1),
      ih each.2, hanging_of_notMem (newline_notMem_quoted key)]

/-- However deep a value stands, it shows the text that it has by itself. -/
theorem pretty_deeper (indent depth more : Nat) (v : Json) :
    pretty indent (depth + more) v = hanging (indent * more) (pretty indent depth v) := by
  suffices hangs : Hangs indent more v from hangs depth
  induction v using parts with
  | null => exact fun _ => (hanging_of_notMem (by simp [pretty])).symm
  | bool b => cases b <;> exact fun _ => (hanging_of_notMem (by simp [pretty])).symm
  | int n => exact fun _ => (hanging_of_notMem (newline_notMem_intText n)).symm
  | float x =>
    exact fun _ => (hanging_of_notMem (DecimalLayout.document.newline_notMem_write x)).symm
  | str s => exact fun _ => (hanging_of_notMem (newline_notMem_quoted s)).symm
  | arr items ih =>
    intro depth
    cases items with
    | nil => exact (hanging_of_notMem (by simp [pretty])).symm
    | cons item items =>
      rw [List.forall_mem_cons] at ih
      have level : depth + more + 1 = depth + 1 + more := Nat.add_right_comm ..
      simp [pretty, hanging_cons, hanging_append, hanging_newline, level, ih.1 (depth + 1),
        prettyItems_deeper ih.2]
  | obj fields ih =>
    intro depth
    cases fields with
    | nil => exact (hanging_of_notMem (by simp [pretty])).symm
    | cons field fields =>
      obtain ⟨key, value⟩ := field
      rw [List.forall_mem_cons] at ih
      have level : depth + more + 1 = depth + 1 + more := Nat.add_right_comm ..
      simp [pretty, hanging_cons, hanging_append, hanging_newline, level, ih.1 (depth + 1),
        prettyFields_deeper ih.2, hanging_of_notMem (newline_notMem_quoted key)]

end Json

end ReadoutControl
