import ReadoutControl.Payload.CardReader
import ReadoutControl.Payload.LinkHandler
import ReadoutControl.Payload.Run
import ReadoutControl.Payload.Storage
import ReadoutControl.Payload.Trigger
import ReadoutControl.Proofs.Json.Value

set_option autoImplicit false

/-!
What payloads are written as: objects of three levels at most, whose numbers are all such as untyped
values hold.
-/

namespace ReadoutControl

open Json

/-- Whether the value is an object that nests three deep at most. -/
structure IsPayload (v : Json) : Prop where
  fits : v.Fits (·.isFinite = true) 3
  isObject : ∃ fields, v = .obj fields

theorem IsPayload.of_fields {fields : List (String × Json)}
    (each : ∀ field ∈ fields, field.2.Fits (·.isFinite = true) 2) : IsPayload (.obj fields) :=
  ⟨.obj each, fields, rfl⟩

theorem NoParameters.isPayload (p : NoParameters) : IsPayload p.toJson := .of_fields (by simp)

theorem RunStart.isPayload (s : RunStart) : IsPayload s.toJson := by
  refine .of_fields ?_
  simp only [List.forall_mem_append]
  exact ⟨⟨by simp, fits_optionalField fits_int64⟩, fits_optionalField fits_bool⟩

theorem Recording.isPayload (r : Recording) : IsPayload r.toJson := .of_fields (by simp)

theorem TriggerResume.isPayload (r : TriggerResume) : IsPayload r.toJson := .of_fields (by simp)

theorem TpRate.fits_toJson (rate : TpRate) {depth : Nat} :
    rate.toJson.Fits (·.isFinite = true) depth := by
  cases rate with
  | disabled => exact .int (by decide) (by decide)
  | khz rate => exact fits_ofBinary64 rate

theorem CardReaderConf.isPayload (c : CardReaderConf) : IsPayload c.toJson := by
  have links : (Json.arr (c.linkIds.map fun n => .ofNat n.toNat)).Fits (·.isFinite = true) 2 :=
    .arr (List.forall_mem_map.mpr fun n _ => fits_uint32 n)
  refine .of_fields ?_
  simp only [List.forall_mem_append]
  exact ⟨⟨⟨⟨by simp [links], fits_optionalField fits_int64⟩, fits_optionalField fits_str⟩,
    fits_optionalField fun rate => rate.fits_toJson⟩, fits_optionalField fits_str⟩

theorem LinkHandlerConf.isPayload (c : LinkHandlerConf) : IsPayload c.toJson := by
  refine .of_fields ?_
  simp only [List.forall_mem_append]
  exact ⟨⟨⟨by simp, fits_optionalField fits_bool⟩, by simp⟩, fits_optionalField fits_bool⟩

theorem RecorderConf.isPayload (c : RecorderConf) : IsPayload c.toJson := .of_fields (by simp)

theorem TriggerConf.isPayload (c : TriggerConf) : IsPayload c.toJson := by
  have links : (Json.arr (c.links.map fun n => .ofNat n.toNat)).Fits (·.isFinite = true) 2 :=
    .arr (List.forall_mem_map.mpr fun n _ => fits_uint32 n)
  refine .of_fields ?_
  simp [links]

theorem RequestConf.isPayload (c : RequestConf) : IsPayload c.toJson := by
  have route (r : RequestRoute) : r.toJson.Fits (·.isFinite = true) 1 := .obj (by simp)
  have routes : (Json.arr (c.routes.map RequestRoute.toJson)).Fits (·.isFinite = true) 2 :=
    .arr (List.forall_mem_map.mpr fun r _ => route r)
  refine .of_fields ?_
  simp [routes]

theorem FragmentConf.isPayload (c : FragmentConf) : IsPayload c.toJson := .of_fields (by simp)

theorem DataStoreConf.fits_toJson (c : DataStoreConf) {depth : Nat} :
    c.toJson.Fits (·.isFinite = true) (depth + 2) := by
  have naming : c.naming.toJson.Fits (·.isFinite = true) (depth + 1) := .obj (by simp)
  have layout : c.layout.toJson.Fits (·.isFinite = true) (depth + 1) := .obj (by simp)
  exact .obj (by simp [naming, layout])

theorem DataWriterConf.isPayload (c : DataWriterConf) : IsPayload c.toJson := by
  have store : c.store.toJson.Fits (·.isFinite = true) 2 := c.store.fits_toJson
  refine .of_fields ?_
  simp [store]

end ReadoutControl
