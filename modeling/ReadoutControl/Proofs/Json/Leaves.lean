import ReadoutControl.Proofs.Json.Within

set_option autoImplicit false

/-!
Nothing in a text is passed over. The reader takes the tokens of a text one after the other, and the
scalar of each stands in the tree, unless it stands inside a part that cannot be read.
-/

namespace ReadoutControl.Json

/-- The tokens of a text, with any blanks around them. -/
inductive Tokens : List Char → List Token → Prop
  | nil {cs : List Char} : cs.dropWhile isSpace = [] → Tokens cs []
  | cons {cs rest after : List Char} {c : Char} {t : Token} {ts : List Token} :
    cs.dropWhile isSpace = c :: rest → token? c rest = some (t, after) → Tokens after ts →
    Tokens cs (t :: ts)

namespace Node

/-- The tree or some part of it is of a kind. -/
inductive Has (P : Node → Prop) : Node → Prop
  | here {node : Node} : P node → Has P node
  | item {items : List Node} {item : Node} : item ∈ items → Has P item → Has P (.arr items)
  | field {fields : List (String × Node)} {field : String × Node} :
    field ∈ fields → Has P field.2 → Has P (.obj fields)

namespace Progress

/-- Some part of what is open has a part of a kind. -/
def FramesHave (P : Node → Prop) (frames : List Frame) : Prop :=
  ∃ frame ∈ frames, ∃ node ∈ parts frame, node.Has P

/-- What has been read so far has some part of a kind. -/
inductive Has (P : Node → Prop) : Progress → Prop
  | part {frames : List Frame} {due : Due} : FramesHave P frames → Has P ⟨frames, due, none⟩
  | result {node : Node} : node.Has P → Has P ⟨[], .separator, some node⟩

variable {P : Node → Prop} {p next : Progress} {frames : List Frame} {frame : Frame} {node : Node}
  {t : Token}

theorem run?_eq_foldlM {cs : List Char} {ts : List Token} (tokens : Tokens cs ts) (p : Progress) :
    p.run? cs = ts.foldlM step? p := by
  induction tokens generalizing p with
  | nil nothing => simp [run?_eq, nothing]
  | cons found token _ ih => simp [run?_eq p, found, token, ih, Option.bind_eq_bind]

theorem framesHave_cons :
    FramesHave P (frame :: frames) ↔ (∃ node ∈ parts frame, node.Has P) ∨ FramesHave P frames := by
  simp only [FramesHave, List.mem_cons, or_and_right, exists_or, exists_eq_left]

theorem has_complete (has : node.Has P ∨ FramesHave P frames) : (complete frames node).Has P := by
  cases frames with
  | nil =>
    rcases has with here | ⟨_, member, _⟩
    · exact .result here
    · exact nomatch member
  | cons frame outer =>
    have grown {wider : Frame} (added : parts wider = node :: parts frame) :
        FramesHave P (wider :: outer) := by
      rw [framesHave_cons] at has
      rw [framesHave_cons, added]
      simpa [or_assoc] using has
    cases frame with
    | items done => exact .part (grown rfl)
    | fields done readable key => exact .part (grown rfl)

section Lost

variable (lost : P .unreadable)

include lost

theorem has_readableWithin (has : node.Has P) : (readableWithin frames node).Has P := by
  unfold readableWithin
  split
  · exact has
  · exact .here lost

theorem has_close? (has : FramesHave P frames) (closed : close? frames t = some next) :
    next.Has P := by
  unfold close? at closed
  split at closed
  · split at closed
    · next done outer =>
      obtain rfl := Option.some.inj closed
      refine has_complete ((framesHave_cons.mp has).imp_left ?_)
      rintro ⟨part, listed, has⟩
      exact has_readableWithin lost (.item (List.mem_reverse.mpr listed) has)
    · exact nomatch closed
  · split at closed
    · next done readable key outer =>
      obtain rfl := Option.some.inj closed
      refine has_complete ((framesHave_cons.mp has).imp_left ?_)
      rintro ⟨part, listed, has⟩
      obtain ⟨field, written, rfl⟩ := List.mem_map.mp listed
      refine has_readableWithin lost ?_
      split
      · exact .field (List.mem_reverse.mpr written) has
      · exact .here lost
    · exact nomatch closed
  · exact nomatch closed

omit lost in
theorem has_beginValue? (has : FramesHave P frames) (begun : beginValue? frames t = some next) :
    next.Has P := by
  unfold beginValue? at begun
  split at begun
  · obtain rfl := Option.some.inj begun
    exact .part (framesHave_cons.mpr (.inr has))
  · obtain rfl := Option.some.inj begun
    exact .part (framesHave_cons.mpr (.inr has))
  · obtain rfl := Option.some.inj begun
    exact has_complete (.inr has)
  · obtain rfl := Option.some.inj begun
    exact has_complete (.inr has)
  · obtain rfl := Option.some.inj begun
    exact has_complete (.inr has)
  · exact nomatch begun

omit lost in
theorem has_takeKey? (has : FramesHave P frames) (taken : takeKey? frames t = some next) :
    next.Has P := by
  unfold takeKey? at taken
  split at taken
  · split at taken
    · obtain rfl := Option.some.inj taken
      exact .part (framesHave_cons.mpr ((framesHave_cons.mp has).imp_left id))
    · exact nomatch taken
  · exact nomatch taken

/-- No token takes away from what has been read. -/
theorem has_step? (has : p.Has P) (step : p.step? t = some next) : next.Has P := by
  cases has with
  | result here => cases t <;> exact nomatch step
  | part frames =>
    unfold step? at step
    simp only at step
    split at step
    · exact has_beginValue? frames step
    · split at step
      · exact has_close? lost frames step
      · exact has_beginValue? frames step
    · split at step
      · exact has_close? lost frames step
      · exact has_takeKey? frames step
    · exact has_takeKey? frames step
    · obtain ⟨_, same⟩ := Option.ite_none_right_eq_some.mp step
      obtain rfl := Option.some.inj same
      exact .part frames
    · split at step
      · obtain rfl := Option.some.inj step
        exact .part frames
      · obtain rfl := Option.some.inj step
        exact .part frames
      · exact has_close? lost frames step

theorem has_run {ts : List Token} (has : p.Has P) (run : ts.foldlM step? p = some next) :
    next.Has P := by
  induction ts generalizing p with
  | nil =>
    obtain rfl := Option.some.inj run
    exact has
  | cons t ts ih =>
    obtain ⟨between, step, run⟩ := Option.bind_eq_some_iff.mp run
    exact ih (has_step? lost has step) run

end Lost

theorem has_scalar {value : Scalar} (kind : P (ofScalar value))
    (step : p.step? (.scalar value) = some next) : next.Has P := by
  have begun : beginValue? p.frames (.scalar value) = some next → next.Has P := by
    intro begun
    obtain rfl := Option.some.inj begun
    exact has_complete (.inl (.here kind))
  unfold step? at step
  split at step
  · exact begun step
  · exact begun step
  · exact nomatch step
  · exact nomatch step
  · exact nomatch step
  · split at step
    · next other => exact nomatch other
    · next other => exact nomatch other
    · exact nomatch step

end Progress

/-- A tree has what the scalars of its text are, unless it cannot be read as far as that. -/
theorem has_of_ofText? {P : Node → Prop} (lost : P .unreadable) {cs : List Char} {node : Node}
    (read : Node.ofText? cs = some node) {ts : List Token} (tokens : Tokens cs ts) {value : Scalar}
    (member : .scalar value ∈ ts) (kind : P (ofScalar value)) : node.Has P := by
  obtain ⟨last, run, result⟩ := Option.bind_eq_some_iff.mp read
  obtain ⟨early, late, rfl⟩ := List.append_of_mem member
  rw [Progress.run?_eq_foldlM tokens, List.foldlM_append] at run
  obtain ⟨before, _, run⟩ := Option.bind_eq_some_iff.mp run
  obtain ⟨after, step, run⟩ := Option.bind_eq_some_iff.mp run
  have has : last.Has P := Progress.has_run lost (Progress.has_scalar kind step) run
  cases has with
  | part _ => exact nomatch result
  | result has =>
    obtain rfl := Option.some.inj result
    exact has

/-- Every text that is read has tokens. -/
theorem exists_tokens {cs : List Char} {node : Node} (read : Node.ofText? cs = some node) :
    ∃ ts, Tokens cs ts := by
  obtain ⟨last, run, _⟩ := Option.bind_eq_some_iff.mp read
  clear read
  generalize Progress.start = p at run
  fun_induction Progress.run? p cs with
  | case1 p cs nothing => exact ⟨[], .nil nothing⟩
  | case2 => cases run
  | case3 => cases run
  | case4 p cs c rest found t after token next step ih =>
    obtain ⟨ts, tokens⟩ := ih run
    exact ⟨t :: ts, .cons found token tokens⟩

end Node

end ReadoutControl.Json
