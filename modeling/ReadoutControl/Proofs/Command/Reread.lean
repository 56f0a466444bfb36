import ReadoutControl.Proofs.Command.Fitting
import ReadoutControl.Proofs.Command.Reading
import ReadoutControl.Proofs.Json.Readable

set_option autoImplicit false

/-!
The sequence that the document of a sequence is read as. Its payloads are as they are read; addresses
and topologies have no floating-point numbers and stay as they are.
-/

namespace ReadoutControl

open Json Json.Node

def Addressed.reread (e : Addressed) : Addressed := { e with payload := e.payload.map Json.reread }

def CommandBody.reread : CommandBody → CommandBody
  | topology t => topology t
  | payloads entries => payloads (entries.map Addressed.reread)

def Command.reread (c : Command) : Command := { c with body := c.body.reread }

def CommandSequence.reread (s : CommandSequence) : CommandSequence :=
  ⟨s.commands.map Command.reread⟩

theorem Topology.reread_toJson (t : Topology) : t.toJson.reread = t.toJson :=
  have fits : t.toJson.Fits Binary64.ReadsBack 6 := t.fits_toJson
  fits.reread_eq

theorem Addressed.reread_toJson (e : Addressed) : e.toJson.reread = e.reread.toJson := by
  have data : (e.payload.getD .null).reread = (e.payload.map Json.reread).getD .null := by
    cases e.payload <;> rfl
  simp [toJson, reread_obj, data, reread, Address.toJson]

theorem CommandBody.reread_toJson (body : CommandBody) :
    body.toJson.reread = body.reread.toJson := by
  cases body with
  | topology t => exact t.reread_toJson
  | payloads entries =>
    simp [toJson, reread_obj, reread_arr, reread, Function.comp_def, Addressed.reread_toJson]

theorem reread_optionalField (name : String) (value : Option Json) :
    (optionalField name value).map (fun field => (field.1, field.2.reread)) =
      optionalField name (value.map Json.reread) := by
  cases value <;> rfl

theorem Command.reread_toJson (c : Command) : c.toJson.reread = c.reread.toJson := by
  simp [toJson, reread_obj, stateField, reread_optionalField, Function.comp_def, reread,
    c.body.reread_toJson]

theorem Command.addressed_reread (c : Command) :
    c.reread.addressed = c.addressed.map Addressed.reread := by
  unfold addressed reread
  cases c.body <;> rfl

theorem Addressed.Portable.reread {e : Addressed} (portable : e.Portable) : e.reread.Portable where
  target := portable.target
  payload := by
    intro v member
    obtain ⟨w, payload, rfl⟩ := Option.map_eq_some_iff.mp member
    obtain ⟨some_value, ordered⟩ := portable.payload w payload
    refine ⟨?_, ?_⟩
    · intro null
      cases w <;> simp_all [Json.reread]
    · rw [← ordered.sorted_eq, reread_sorted]
      exact ordered_sorted _

namespace CommandSequence

theorem reread_toJson (s : CommandSequence) : s.toJson.reread = s.reread.toJson := by
  simp [toJson, reread_arr, reread, Function.comp_def, Command.reread_toJson]

theorem Portable.reread_commands {s : CommandSequence} (portable : s.Portable) :
    ∀ c ∈ s.reread.commands, c.Portable := by
  refine List.forall_mem_map.mpr fun c member => ?_
  rw [Command.Portable, Command.addressed_reread]
  exact List.forall_mem_map.mpr fun e here => (portable.commands c member e here).reread

/-- The document is read, whatever numbers there are in it. -/
theorem ofText?_reread {s : CommandSequence} (portable : s.Portable) :
    ofText? s.document = some s.reread := by
  have fits := portable.fits.of_floats fun x _ finite => Binary64.rereads_of_isFinite finite
  rw [ofText?, document, Json.ofText?_reread fits, Option.bind_some, reread_toJson]
  exact read?_tree portable.reread_commands

theorem topology?_reread (s : CommandSequence) : s.reread.topology? = s.topology? := by
  have each (c : Command) : c.reread.topology? = c.topology? := by
    unfold Command.topology? Command.reread
    cases c.body <;> rfl
  simp [topology?, reread, List.findSome?_map, Function.comp_def, each]

theorem command?_reread (s : CommandSequence) (id : String) :
    s.reread.command? id = (s.command? id).map Command.reread := by
  rw [command?, reread, List.find?_map]
  rfl

end CommandSequence

end ReadoutControl
