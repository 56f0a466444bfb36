import ReadoutControl.Command.Basic
import ReadoutControl.Proofs.Json.Value

set_option autoImplicit false

/-!
How deep a document nests: five levels above the payloads, and eight where a topology stands.
-/

namespace ReadoutControl

open Json

variable {P : Binary64 → Prop} {depth : Nat}

theorem Queue.fits_toJson (q : Queue) : q.toJson.Fits P (depth + 1) := .obj (by simp)

theorem Connection.fits_toJson (c : Connection) : c.toJson.Fits P (depth + 1) := .obj (by simp)

theorem DaqModule.fits_toJson (m : DaqModule) : m.toJson.Fits P (depth + 4) := by
  have connections : (Json.arr (m.connections.map Connection.toJson)).Fits P (depth + 2) :=
    .arr (List.forall_mem_map.mpr fun c _ => c.fits_toJson)
  have data : (Json.obj [("qinfos", .arr (m.connections.map Connection.toJson))]).Fits P
      (depth + 3) := .obj (by simp [connections])
  exact .obj (by simp [data])

theorem Topology.fits_toJson (t : Topology) : t.toJson.Fits P (depth + 6) := by
  have queues : (Json.arr (t.queues.map Queue.toJson)).Fits P (depth + 5) :=
    .arr (List.forall_mem_map.mpr fun q _ => q.fits_toJson)
  have modules : (Json.arr (t.modules.map DaqModule.toJson)).Fits P (depth + 5) :=
    .arr (List.forall_mem_map.mpr fun m _ => m.fits_toJson)
  exact .obj (by simp [queues, modules])

theorem Addressed.fits_toJson {e : Addressed} (payload : ∀ v ∈ e.payload, v.Fits P depth) :
    e.toJson.Fits P (depth + 1) := by
  refine .obj ?_
  cases data : e.payload with
  | none => simp [Address.toJson, Fits.null]
  | some v => simp [Address.toJson, payload v data]

theorem CommandBody.fits_payloads {entries : List Addressed}
    (each : ∀ e ∈ entries, e.toJson.Fits P depth) :
    (payloads entries).toJson.Fits P (depth + 2) := by
  have modules : (Json.arr (entries.map Addressed.toJson)).Fits P (depth + 1) :=
    .arr (List.forall_mem_map.mpr each)
  exact .obj (by simp [modules])

theorem Command.fits_toJson {c : Command} (body : c.body.toJson.Fits P depth) :
    c.toJson.Fits P (depth + 1) := by
  have state (s : RunState) : (Json.str s.name).Fits P depth := .str s.name
  refine .obj ?_
  simp only [stateField, List.forall_mem_append]
  exact ⟨⟨⟨by simp, fits_optionalField state⟩, fits_optionalField state⟩, by simp [body]⟩

/-- Payloads of three levels leave a command with as many levels as a topology. -/
theorem CommandSequence.fits_toJson {s : CommandSequence}
    (payloads : ∀ c ∈ s.commands, ∀ e ∈ c.addressed, ∀ v ∈ e.payload, v.Fits P 3) :
    s.toJson.Fits P 8 := by
  refine .arr (List.forall_mem_map.mpr fun c member => Command.fits_toJson ?_)
  cases shape : c.body with
  | topology t => exact t.fits_toJson
  | payloads entries =>
    refine CommandBody.fits_payloads fun e here => Addressed.fits_toJson ?_
    exact payloads c member e (by simpa [Command.addressed, shape] using here)

end ReadoutControl
