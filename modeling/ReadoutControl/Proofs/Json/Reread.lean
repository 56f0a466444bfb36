import ReadoutControl.Proofs.Json.Finite
import ReadoutControl.Proofs.Json.Token
import ReadoutControl.Proofs.Json.Value

set_option autoImplicit false

/-!
The value that a printed value is read as. It differs in the floating-point numbers alone, because the
reader need not take a numeral to the number that was printed.
-/

namespace ReadoutControl

namespace Binary64

/-- The number that the text of a finite number is read as. -/
def reread (x : Binary64) : Binary64 :=
  if x.isFinite then
    match Json.number? (Json.floatText x) with
    | some (.float y) => y
    | _ => x
  else x

/-- The text of the number is read as a number, if not as the same one. -/
def Rereads (x : Binary64) : Prop := Json.number? (Json.floatText x) = some (.float x.reread)

instance (x : Binary64) : Decidable x.Rereads := inferInstanceAs (Decidable (_ = _))

variable {x : Binary64}

theorem ReadsBack.isFinite (back : x.ReadsBack) : x.isFinite = true :=
  Json.isFinite_of_number? back

theorem ReadsBack.reread_eq (back : x.ReadsBack) : x.reread = x := by
  have same : Json.number? (Json.floatText x) = some (.float x) := back
  simp [reread, back.isFinite, same]

theorem ReadsBack.rereads (back : x.ReadsBack) : x.Rereads := by
  rw [Rereads, back.reread_eq]
  exact back

theorem isFinite_reread (x : Binary64) : x.reread.isFinite = x.isFinite := by
  unfold reread
  split
  · next finite =>
    split
    · next y read => rw [Json.isFinite_of_number? read, finite]
    · rfl
  · rfl

end Binary64

namespace Json

mutual

/-- The value that the text of the value is read as. -/
def reread : Json → Json
  | .float x => .float x.reread
  | .arr items => .arr (rereadItems items)
  | .obj fields => .obj (rereadFields fields)
  | value => value

def rereadItems : List Json → List Json
  | [] => []
  | item :: rest => reread item :: rereadItems rest

def rereadFields : List (String × Json) → List (String × Json)
  | [] => []
  | (key, value) :: rest => (key, reread value) :: rereadFields rest

end

theorem rereadItems_eq (items : List Json) : rereadItems items = items.map reread := by
  induction items with
  | nil => rfl
  | cons item rest ih => simp [rereadItems, ih]

theorem rereadFields_eq (fields : List (String × Json)) :
    rereadFields fields = fields.map fun field => (field.1, field.2.reread) := by
  induction fields with
  | nil => rfl
  | cons field rest ih => simp [rereadFields, ih]

@[simp] theorem reread_null : Json.null.reread = .null := rfl

@[simp] theorem reread_bool (b : Bool) : (Json.bool b).reread = .bool b := rfl

@[simp] theorem reread_int (n : Int) : (Json.int n).reread = .int n := rfl

@[simp] theorem reread_ofNat (n : Nat) : (Json.ofNat n).reread = .ofNat n := rfl

@[simp] theorem reread_str (s : String) : (Json.str s).reread = .str s := rfl

theorem reread_arr (items : List Json) : (Json.arr items).reread = .arr (items.map reread) := by
  rw [reread, rereadItems_eq]

theorem reread_obj (fields : List (String × Json)) :
    (Json.obj fields).reread = .obj (fields.map fun field => (field.1, field.2.reread)) := by
  rw [reread, rereadFields_eq]

theorem reread_ofBinary64 (x : Binary64) : (ofBinary64 x).reread = ofBinary64 x.reread := by
  unfold ofBinary64
  rw [x.isFinite_reread]
  split <;> rfl

theorem reread_sorted (v : Json) : v.sorted.reread = v.reread.sorted := by
  induction v using parts with
  | arr items ih =>
    rw [sorted, sortedItems_eq, reread_arr, reread_arr, sorted, sortedItems_eq, List.map_map,
      List.map_map]
    exact congrArg Json.arr (List.map_congr_left ih)
  | obj fields ih =>
    have each : fields.map (fun field => (field.1, field.2.sorted.reread)) =
        fields.map (fun field => (field.1, field.2.reread.sorted)) :=
      List.map_congr_left fun field member => by rw [ih field member]
    rw [sorted, sortedFields_eq, reread_obj, ← sortFields_map, reread_obj, sorted, sortedFields_eq,
      List.map_map, List.map_map]
    exact congrArg (fun fields => Json.obj (sortFields fields)) each
  | _ => rfl

/-- Where every number is read back, so is the value. -/
theorem Fits.reread_eq {depth : Nat} {v : Json} (fits : v.Fits Binary64.ReadsBack depth) :
    v.reread = v := by
  induction fits with
  | float back => rw [reread, back.reread_eq]
  | arr _ ih => rw [reread_arr, List.map_congr_left ih, List.map_id']
  | @obj _ fields _ ih =>
    have same : (fields.map fun field => (field.1, field.2.reread)) = fields := by
      refine (List.map_congr_left fun field member => ?_).trans (List.map_id fields)
      rw [ih field member]
      rfl
    rw [reread_obj, same]
  | _ => rfl

end Json

end ReadoutControl
