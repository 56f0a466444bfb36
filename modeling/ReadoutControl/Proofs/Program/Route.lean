import ReadoutControl.Program.Path
import ReadoutControl.Proofs.Text.Words

set_option autoImplicit false

/-!
Where a path leads, whatever there is: from the root or from the directory at hand, by the names
between its slashes. A name behind a slash stands in the directory of the path before it, and more
slashes there make no difference.
-/

namespace ReadoutControl

namespace Path

theorem pieces_ofText_append (front rest : String) :
    (ofText (front ++ "/" ++ rest)).pieces = (ofText front).pieces ++ (ofText rest).pieces := by
  have parts : Text.splitAt (· = '/') (front.toList ++ '/' :: rest.toList) =
      Text.splitAt (· = '/') front.toList ++ Text.splitAt (· = '/') rest.toList :=
    Text.splitAt_append_separator (by decide) front.toList rest.toList
  simp [ofText, parts]

theorem names_ofText_append (front rest : String) :
    (ofText (front ++ "/" ++ rest)).names = (ofText front).names ++ (ofText rest).names := by
  rw [names, pieces_ofText_append, List.filter_append]
  rfl

theorem pieces_ofText_name {name : String} (plain : '/' ∉ name.toList) :
    (ofText name).pieces = [name] := by
  have solid : ∀ c ∈ name.toList, decide (c = '/') = false := fun c member => by
    simpa using ne_of_mem_of_not_mem member plain
  simp [ofText, Text.splitAt_of_forall solid]

theorem names_ofText_name {name : String} (plain : '/' ∉ name.toList) (named : name ≠ "") :
    (ofText name).names = [name] := by
  simp [names, pieces_ofText_name plain, named]

theorem names_ofText_slash (front : String) :
    (ofText (front ++ "/")).names = (ofText front).names := by
  have ended := names_ofText_append front ""
  rwa [String.append_empty, show (ofText "").names = [] by decide, List.append_nil] at ended

/-- Slashes at the end of a path add nothing to it. -/
theorem names_ofText_slashes (front : List Char) (n : Nat) :
    (ofText (String.ofList (front ++ List.replicate n '/'))).names =
      (ofText (String.ofList front)).names := by
  induction n with
  | zero => rw [List.replicate_zero, List.append_nil]
  | succ n ih =>
    rw [List.replicate_succ', ← List.append_assoc, String.ofList_append]
    exact (names_ofText_slash _).trans ih

end Path

/-- A path leads from the root if it begins with a slash. -/
@[ext]
structure Route where
  fromRoot : Bool
  names : List String
  deriving DecidableEq

namespace Route

def root : Route := ⟨true, []⟩

def ofText (text : String) : Route := ⟨text.toList.head? = some '/', (Path.ofText text).names⟩

/-- The route to what has the name in the directory at the end of the route. -/
def enter (r : Route) (name : String) : Route := { r with names := r.names ++ [name] }

end Route

end ReadoutControl
