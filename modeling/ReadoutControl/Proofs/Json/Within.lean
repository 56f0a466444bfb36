import Mathlib.Algebra.Group.Int.Defs
import Mathlib.Data.List.TakeWhile
import ReadoutControl.Json.Record
import ReadoutControl.Proofs.Json.Finite
import ReadoutControl.Proofs.Json.Reading

set_option autoImplicit false

/-!
What a tree that is read from a text can hold. Its integers have 64 bits and its floating-point
numbers are finite, and it nests no deeper than it may, for what nests deeper is unreadable. Digits
alone are what its natural numbers are written in.
-/

namespace ReadoutControl.Json

/-- A scalar that a tree can hold. -/
def Scalar.Holds : Scalar → Prop
  | .int n => -2 ^ 63 ≤ n ∧ n < 2 ^ 64
  | .float x => x.isFinite = true
  | _ => True

theorem holds_of_number? {cs : List Char} {value : Scalar} (read : number? cs = some value) :
    value.Holds := by
  cases value with
  | float x => exact isFinite_of_number? read
  | int n =>
    unfold number? at read
    split at read
    next negative body _ =>
    obtain ⟨numeral, _, value⟩ := Option.map_eq_some_iff.mp read
    simp only at value
    split at value
    · next small =>
      simp only [Bool.and_eq_true, decide_eq_true_eq] at small
      obtain rfl := Scalar.int.inj value
      have bound : Decimal.natOfDigits numeral.whole < UInt64.size := small.2
      simp only [UInt64.size] at bound
      simp only [Scalar.Holds]
      omega
    · split at value
      · next small =>
        simp only [Bool.and_eq_true, decide_eq_true_eq] at small
        obtain rfl := Scalar.int.inj value
        have bound := small.2
        simp only [Scalar.Holds]
        omega
      · split at value <;> exact nomatch value
  | _ => trivial

/-- A numeral without a point and an exponent is one of digits alone. -/
theorem Numeral.isInteger_iff {cs : List Char} {n : Numeral} (read : Numeral.ofText? cs = some n) :
    n.whole = cs.takeWhile Char.isDigit ∧ (n.isInteger = true ↔ ∀ c ∈ cs, c.isDigit = true) := by
  rw [← List.dropWhile_eq_nil_iff]
  simp only [Numeral.ofText?] at read
  obtain ⟨_, read⟩ := Option.ite_none_left_eq_some.mp read
  split at read
  · next pointed =>
    obtain ⟨filled, read⟩ := Option.ite_none_left_eq_some.mp read
    obtain ⟨e, _, rfl⟩ := Option.map_eq_some_iff.mp read
    rw [Option.any_some] at filled
    simp [isInteger, pointed, filled]
  · obtain ⟨_, read⟩ := Option.ite_none_left_eq_some.mp read
    obtain ⟨e, _, rfl⟩ := Option.map_eq_some_iff.mp read
    simp [isInteger]

/-- A numeral is read as a natural number of 64 bits if it is one in digits alone. -/
theorem number?_natural_iff {cs : List Char} {value : Scalar} (read : number? cs = some value) :
    (∃ n : Nat, n < UInt64.size ∧ value = .int n) ↔
      (∀ c ∈ cs, c.isDigit = true) ∧ Decimal.natOfDigits cs < UInt64.size := by
  unfold number? at read
  split at read
  next negative body signed =>
  obtain ⟨numeral, parts, value⟩ := Option.map_eq_some_iff.mp read
  obtain ⟨whole, integer⟩ := Numeral.isInteger_iff parts
  simp only at value
  constructor
  · rintro ⟨n, small, rfl⟩
    split at value
    · next plain =>
      simp only [Bool.and_eq_true, decide_eq_true_eq, Bool.not_eq_true'] at plain
      obtain ⟨⟨plain, rfl⟩, bound⟩ := plain
      have digits := integer.mp plain
      obtain rfl : cs = body := by
        split at signed
        · exact nomatch signed
        · exact (Prod.mk.inj signed).2
      rw [whole, List.takeWhile_eq_self_iff.mpr digits] at bound
      exact ⟨digits, bound⟩
    · split at value
      · next minus =>
        simp only [Bool.and_eq_true, decide_eq_true_eq] at minus
        have same := Scalar.int.inj value
        omega
      · split at value <;> exact nomatch value
  · rintro ⟨digits, small⟩
    obtain ⟨rfl, rfl⟩ : false = negative ∧ cs = body := by
      split at signed
      · exact absurd (digits '-' List.mem_cons_self) (by decide)
      · exact Prod.mk.inj signed
    rw [List.takeWhile_eq_self_iff.mpr digits] at whole
    simp only [integer.mpr digits, whole, small, Bool.not_false, Bool.and_self, decide_true,
      if_true] at value
    exact ⟨_, small, value.symm⟩
theorem holds_of_word? {cs : List Char} {value : Scalar} (read : word? cs = some value) :
    value.Holds := by
  unfold word? at read
  split at read
  · obtain rfl := Option.some.inj read
    trivial
  · split at read
    · obtain rfl := Option.some.inj read
      trivial
    · obtain ⟨_, same⟩ := Option.ite_none_right_eq_some.mp read
      obtain rfl := Option.some.inj same
      trivial

theorem holds_of_token? {c : Char} {rest after : List Char} {value : Scalar}
    (token : token? c rest = some (.scalar value, after)) : value.Holds := by
  unfold token? at token
  split at token
  case h_8 =>
    split at token
    · obtain ⟨_, read, same⟩ := Option.map_eq_some_iff.mp token
      obtain rfl := Token.scalar.inj (Prod.mk.inj same).1
      exact holds_of_number? read
    · obtain ⟨_, read, same⟩ := Option.map_eq_some_iff.mp token
      obtain rfl := Token.scalar.inj (Prod.mk.inj same).1
      exact holds_of_word? read
  all_goals simp at token

namespace Node

/-- Integers have 64 bits, floating-point numbers are finite, and at most `depth` arrays and objects
are nested in what can be read. -/
inductive Within : Nat → Node → Prop
  | null {depth} : Within depth .null
  | bool {depth} (b : Bool) : Within depth (.bool b)
  | int {depth n} : -2 ^ 63 ≤ n → n < 2 ^ 64 → Within depth (.int n)
  | float {depth} {x : Binary64} : x.isFinite = true → Within depth (.float x)
  | str {depth} (s : String) : Within depth (.str s)
  | arr {depth items} : (∀ item ∈ items, Within depth item) → Within (depth + 1) (.arr items)
  | obj {depth} {fields : List (String × Node)} : (∀ field ∈ fields, Within depth field.2) →
    Within (depth + 1) (.obj fields)
  | unreadable {depth} : Within depth .unreadable

theorem within_ofScalar {value : Scalar} (holds : value.Holds) (depth : Nat) :
    (ofScalar value).Within depth := by
  cases value with
  | null => exact .null
  | bool b => exact .bool b
  | int n => exact .int holds.1 holds.2
  | float x => exact .float holds
  | str s => exact .str s
  | unreadable => exact .unreadable

namespace Progress

/-- The parts of an open array or object. -/
def parts : Frame → List Node
  | .items done => done
  | .fields done _ _ => done.map (·.2)

/-- The parts of what is open leave room for what is around them. -/
inductive FramesWithin : List Frame → Prop
  | nil : FramesWithin []
  | cons {frame : Frame} {outer : List Frame} : FramesWithin outer →
    (∀ node ∈ parts frame, node.Within (maxDepth - (outer.length + 1))) →
    FramesWithin (frame :: outer)

structure Sound (p : Progress) : Prop where
  frames : FramesWithin p.frames
  result : ∀ node ∈ p.result, node.Within maxDepth

variable {frames : List Frame} {node : Node} {t : Token} {p next : Progress}

theorem sound_open (within : FramesWithin frames) (due : Due) : Sound ⟨frames, due, none⟩ :=
  ⟨within, by simp⟩

theorem sound_complete (within : FramesWithin frames)
    (part : node.Within (maxDepth - frames.length)) : (complete frames node).Sound := by
  cases within with
  | nil => exact ⟨.nil, by simpa [complete] using part⟩
  | @cons frame outer around before =>
    rw [List.length_cons] at part
    cases frame with
    | items done =>
      have items : ∀ other ∈ parts (.items (node :: done)),
          other.Within (maxDepth - (outer.length + 1)) := List.forall_mem_cons.mpr ⟨part, before⟩
      exact sound_open (.cons around items) .separator
    | fields done readable key =>
      have fields : ∀ other ∈ parts (.fields ((key, node) :: done) readable key),
          other.Within (maxDepth - (outer.length + 1)) := List.forall_mem_cons.mpr ⟨part, before⟩
      exact sound_open (.cons around fields) .separator

/-- An array or object that ends too deep inside others is unreadable. -/
theorem within_readableWithin {frame : Frame} {outer : List Frame}
    (shape : node.Within (maxDepth - (outer.length + 1) + 1)) :
    (readableWithin (frame :: outer) node).Within (maxDepth - outer.length) := by
  unfold readableWithin
  split
  · next room =>
    rw [List.length_cons] at room
    have level : maxDepth - (outer.length + 1) + 1 = maxDepth - outer.length := by omega
    exact level ▸ shape
  · exact .unreadable

theorem sound_close? (within : FramesWithin frames) (closed : close? frames t = some next) :
    next.Sound := by
  unfold close? at closed
  split at closed
  · split at closed
    · next done outer =>
      obtain rfl := Option.some.inj closed
      cases within with
      | cons around before =>
        refine sound_complete around (within_readableWithin (.arr fun item member => ?_))
        exact before item (List.mem_reverse.mp member)
    · exact nomatch closed
  · split at closed
    · next done readable key outer =>
      obtain rfl := Option.some.inj closed
      cases within with
      | cons around before =>
        refine sound_complete around (within_readableWithin ?_)
        split
        · refine .obj fun field member => ?_
          exact before field.2 (List.mem_map_of_mem (List.mem_reverse.mp member))
        · exact .unreadable
    · exact nomatch closed
  · exact nomatch closed

theorem sound_beginValue? (within : FramesWithin frames) (holds : ∀ v, t = .scalar v → v.Holds)
    (begun : beginValue? frames t = some next) : next.Sound := by
  unfold beginValue? at begun
  split at begun
  · obtain rfl := Option.some.inj begun
    exact sound_open (.cons within (by simp [parts])) .firstItem
  · obtain rfl := Option.some.inj begun
    exact sound_open (.cons within (by simp [parts])) .firstKey
  · next value =>
    obtain rfl := Option.some.inj begun
    exact sound_complete within (within_ofScalar (holds value rfl) _)
  · next s =>
    obtain rfl := Option.some.inj begun
    exact sound_complete within (.str s)
  · obtain rfl := Option.some.inj begun
    exact sound_complete within .unreadable
  · exact nomatch begun

theorem sound_takeKey? (within : FramesWithin frames) (taken : takeKey? frames t = some next) :
    next.Sound := by
  unfold takeKey? at taken
  split at taken
  · split at taken
    · obtain rfl := Option.some.inj taken
      cases within with
      | cons around before =>
        refine sound_open (.cons around ?_) .colon
        exact before
    · exact nomatch taken
  · exact nomatch taken

/-- No token leads to a part that cannot be held. -/
theorem sound_step? (sound : p.Sound) (holds : ∀ v, t = .scalar v → v.Holds)
    (step : p.step? t = some next) : next.Sound := by
  have frames := sound.frames
  unfold step? at step
  split at step
  · exact sound_beginValue? frames holds step
  · split at step
    · exact sound_close? frames step
    · exact sound_beginValue? frames holds step
  · split at step
    · exact sound_close? frames step
    · exact sound_takeKey? frames step
  · exact sound_takeKey? frames step
  · obtain ⟨_, same⟩ := Option.ite_none_right_eq_some.mp step
    obtain rfl := Option.some.inj same
    exact sound_open frames .value
  · split at step
    · next open_ =>
      obtain rfl := Option.some.inj step
      exact sound_open (open_ ▸ frames) .value
    · next open_ =>
      obtain rfl := Option.some.inj step
      exact sound_open (open_ ▸ frames) .key
    · exact sound_close? frames step

theorem sound_run? {cs : List Char} (sound : p.Sound) (run : p.run? cs = some next) :
    next.Sound := by
  fun_induction run? p cs with
  | case1 =>
    obtain rfl := Option.some.inj run
    exact sound
  | case2 => exact nomatch run
  | case3 => exact nomatch run
  | case4 p _ c rest _ t after token next step ih =>
    refine ih (sound_step? sound ?_ step) run
    rintro value rfl
    exact holds_of_token? token

end Progress

/-- What is read from a text is within the depth that can be read. -/
theorem within_of_ofText? {cs : List Char} {node : Node} (read : ofText? cs = some node) :
    node.Within maxDepth := by
  obtain ⟨last, run, result⟩ := Option.bind_eq_some_iff.mp read
  have start : Progress.start.Sound := ⟨.nil, by simp [Progress.start]⟩
  exact (Progress.sound_run? start run).result node result

section Readers

variable {depth : Nat} {node : Node}

/-- The fields of a record are one level below it. -/
theorem Within.record? {names defaulted : List String} {record : List (String × Node)}
    (within : node.Within depth) (found : node.record? names defaulted = some record) :
    ∃ below, depth = below + 1 ∧ ∀ field ∈ record, field.2.Within below := by
  cases within with
  | @obj below fields each =>
    obtain ⟨_, same⟩ := Option.ite_none_left_eq_some.mp found
    obtain rfl := Option.some.inj same
    exact ⟨below, rfl, each⟩
  | @arr below items each =>
    obtain ⟨_, same⟩ := Option.ite_none_right_eq_some.mp found
    obtain rfl := Option.some.inj same
    exact ⟨below, rfl, fun field member => each field.2 (List.of_mem_zip member).2⟩
  | _ => exact nomatch found

theorem Within.float? {x : Binary64} (within : node.Within depth) (read : node.float? = some x) :
    x.isFinite = true := by
  cases within with
  | float finite =>
    obtain rfl := Option.some.inj read
    exact finite
  | int lower upper =>
    obtain rfl := Option.some.inj read
    exact Binary64.isFinite_of_le (Binary64.magnitude_ofInt_le (k := 64) (by decide) (by omega))
      (by decide)
  | _ => exact nomatch read

theorem mem_of_values? {items : List Node} {vs : List Json} (read : values? items = some vs) :
    ∀ v ∈ vs, ∃ item ∈ items, item.value? = some v := by
  induction items generalizing vs with
  | nil =>
    obtain rfl := Option.some.inj read
    simp
  | cons item rest ih =>
    obtain ⟨v, first, later⟩ := Option.bind_eq_some_iff.mp read
    obtain ⟨vs, others, rfl⟩ := Option.map_eq_some_iff.mp later
    refine List.forall_mem_cons.mpr ⟨⟨item, List.mem_cons_self, first⟩, fun other member => ?_⟩
    obtain ⟨source, here, found⟩ := ih others other member
    exact ⟨source, List.mem_cons_of_mem _ here, found⟩

theorem mem_of_fieldValues? {fields : List (String × Node)} {vs : List (String × Json)}
    (read : fieldValues? fields = some vs) :
    ∀ v ∈ vs, ∃ field ∈ fields, field.2.value? = some v.2 := by
  induction fields generalizing vs with
  | nil =>
    obtain rfl := Option.some.inj read
    simp
  | cons field rest ih =>
    obtain ⟨v, first, later⟩ := Option.bind_eq_some_iff.mp read
    obtain ⟨vs, others, rfl⟩ := Option.map_eq_some_iff.mp later
    refine List.forall_mem_cons.mpr ⟨⟨field, List.mem_cons_self, first⟩, fun other member => ?_⟩
    obtain ⟨source, here, found⟩ := ih others other member
    exact ⟨source, List.mem_cons_of_mem _ here, found⟩

/-- An untyped value is in order, and within the depth of its tree. -/
theorem Within.value? {v : Json} (within : node.Within depth) (read : node.value? = some v) :
    v.Fits (·.isFinite = true) depth ∧ v.Ordered := by
  induction within generalizing v with
  | @arr below items _ ih =>
    obtain ⟨vs, values, rfl⟩ := Option.map_eq_some_iff.mp read
    have each : ∀ v ∈ vs, v.Fits (·.isFinite = true) below ∧ v.Ordered := by
      intro v member
      obtain ⟨item, here, found⟩ := mem_of_values? values v member
      exact ih item here found
    exact ⟨.arr fun v member => (each v member).1, .arr fun v member => (each v member).2⟩
  | @obj below fields _ ih =>
    obtain ⟨vs, values, rfl⟩ := Option.map_eq_some_iff.mp read
    have each : ∀ v ∈ sortFields vs, v.2.Fits (·.isFinite = true) below ∧ v.2.Ordered := by
      intro v member
      obtain ⟨field, here, found⟩ := mem_of_fieldValues? values v (mem_sortFields member)
      exact ih field here found
    exact ⟨.obj fun v member => (each v member).1,
      .obj (KeyMap.ordered_sortFields vs) fun v member => (each v member).2⟩
  | null =>
    obtain rfl := Option.some.inj read
    exact ⟨.null, .null⟩
  | bool b =>
    obtain rfl := Option.some.inj read
    exact ⟨.bool b, .bool b⟩
  | int lower upper =>
    obtain rfl := Option.some.inj read
    exact ⟨.int lower upper, .int _⟩
  | float finite =>
    obtain rfl := Option.some.inj read
    exact ⟨.float finite, .float _⟩
  | str s =>
    obtain rfl := Option.some.inj read
    exact ⟨.str s, .str s⟩
  | unreadable => exact nomatch read

end Readers

end Node

end ReadoutControl.Json
