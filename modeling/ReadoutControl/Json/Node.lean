import ReadoutControl.Json.Basic
import ReadoutControl.Json.Token

set_option autoImplicit false

/-!
JSON texts as trees. A tree keeps equal keys and the order of fields, because whether they matter
depends on what is read from them, and it marks what cannot be read: such a part may only be
skipped. `Node.value?` is the untyped reading.
-/

namespace ReadoutControl.Json

inductive Node where
  | null
  | bool (b : Bool)
  | int (n : Int)
  | float (x : Binary64)
  | str (s : String)
  | arr (items : List Node)
  | obj (fields : List (String × Node))
  | unreadable
  deriving Inhabited

namespace Node

def ofScalar : Scalar → Node
  | .null => .null
  | .bool b => .bool b
  | .int n => .int n
  | .float x => .float x
  | .str s => .str s
  | .unreadable => .unreadable

/-- Arrays and objects may nest this deep and still be read. -/
def maxDepth : Nat := 127

/-- An array or object whose end has not been reached, with its parts so far in reverse order. -/
inductive Frame where
  | items (done : List Node)
  | fields (done : List (String × Node)) (readable : Bool) (key : String)

/-- What may come next. -/
inductive Due where
  | value
  | firstItem
  | firstKey
  | key
  | colon
  | separator

structure Progress where
  frames : List Frame
  due : Due
  /-- The value of the whole text, once it has ended. -/
  result : Option Node

namespace Progress

def start : Progress := ⟨[], .value, none⟩

/-- Adds a complete value to the innermost open array or object. -/
def complete (frames : List Frame) (node : Node) : Progress :=
  match frames with
  | [] => ⟨[], .separator, some node⟩
  | .items done :: outer => ⟨.items (node :: done) :: outer, .separator, none⟩
  | .fields done readable key :: outer =>
    ⟨.fields ((key, node) :: done) readable key :: outer, .separator, none⟩

def readableWithin (frames : List Frame) (node : Node) : Node :=
  if frames.length ≤ maxDepth then node else .unreadable

def close? (frames : List Frame) : Token → Option Progress
  | .closeArr => match frames with
    | .items done :: outer =>
      some (complete outer (readableWithin frames (.arr done.reverse)))
    | _ => none
  | .closeObj => match frames with
    | .fields done readable _ :: outer =>
      some (complete outer
        (readableWithin frames (if readable then .obj done.reverse else .unreadable)))
    | _ => none
  | _ => none

def beginValue? (frames : List Frame) : Token → Option Progress
  | .openArr => some ⟨.items [] :: frames, .firstItem, none⟩
  | .openObj => some ⟨.fields [] true "" :: frames, .firstKey, none⟩
  | .scalar value => some (complete frames (ofScalar value))
  | .text (some s) => some (complete frames (.str s))
  | .text none => some (complete frames .unreadable)
  | _ => none

def takeKey? (frames : List Frame) : Token → Option Progress
  | .text content => match frames with
    | .fields done readable _ :: outer =>
      some ⟨.fields done (readable && content.isSome) (content.getD "") :: outer, .colon, none⟩
    | _ => none
  | _ => none

def step? (p : Progress) (t : Token) : Option Progress :=
  match p.due with
  | .value => beginValue? p.frames t
  | .firstItem => if t = .closeArr then close? p.frames t else beginValue? p.frames t
  | .firstKey => if t = .closeObj then close? p.frames t else takeKey? p.frames t
  | .key => takeKey? p.frames t
  | .colon => if t = .colon then some ⟨p.frames, .value, none⟩ else none
  | .separator => match p.frames, t with
    | .items done :: outer, .comma => some ⟨.items done :: outer, .value, none⟩
    | .fields done readable key :: outer, .comma =>
      some ⟨.fields done readable key :: outer, .key, none⟩
    | frames, t => close? frames t

/-- Takes the tokens of a text one after the other. -/
def run? (p : Progress) (cs : List Char) : Option Progress :=
  match _h : cs.dropWhile isSpace with
  | [] => some p
  | c :: rest =>
    match _ht : token? c rest with
    | none => none
    | some (t, after) =>
      match p.step? t with
      | none => none
      | some next => run? next after
termination_by cs.length
decreasing_by
  have hle := length_dropWhile_le isSpace cs
  have hafter := length_le_of_token? _ht
  rw [_h] at hle
  simp only [List.length_cons] at hle
  omega

end Progress

/-- The tree of a text, if it is well formed. -/
def ofText? (cs : List Char) : Option Node :=
  (Progress.start.run? cs).bind (·.result)

mutual

/-- The untyped value: keys are put in order and the last of equal keys stands. -/
def value? : Node → Option Json
  | .null => some .null
  | .bool b => some (.bool b)
  | .int n => some (.int n)
  | .float x => some (.float x)
  | .str s => some (.str s)
  | .arr items => (values? items).map .arr
  | .obj fields => (fieldValues? fields).map fun fields => .obj (sortFields fields)
  | .unreadable => none

def values? : List Node → Option (List Json)
  | [] => some []
  | node :: rest => (value? node).bind fun v => (values? rest).map (v :: ·)

def fieldValues? : List (String × Node) → Option (List (String × Json))
  | [] => some []
  | (key, node) :: rest =>
    (value? node).bind fun v => (fieldValues? rest).map ((key, v) :: ·)

end

end Node

/-- The untyped value of a text. -/
def ofText? (s : String) : Option Json := (Node.ofText? s.toList).bind Node.value?

end ReadoutControl.Json
