import ReadoutControl.FakeReadout.Commands
import ReadoutControl.MiniDaq.Commands
import ReadoutControl.Proofs.Application.Addressing
import ReadoutControl.Proofs.Command.Fitting
import ReadoutControl.Proofs.Command.Reading
import ReadoutControl.Proofs.Payload.Fitting

set_option autoImplicit false

/-!
The documents of both applications can be read back. All their entries are made from an address that
shows what it is and from an object, or from an address alone.
-/

namespace ReadoutControl

open Text (numbered)

theorem Address.parsed_numbered {stem : String} (plain : (Address.exact stem).Parsed) (i : Nat) :
    (Address.exact (numbered stem i)).Parsed := by
  have digits : ∀ c ∈ Decimal.digitChars i, c ∉ metaChars := by
    intro c member special
    have digit := Decimal.isDigit_of_mem_digitChars member
    simp only [metaChars, List.mem_cons, List.not_mem_nil, or_false] at special
    rcases special with rfl | rfl | rfl | rfl | rfl | rfl | rfl | rfl | rfl | rfl | rfl | rfl |
      rfl | rfl <;> contradiction
  constructor
  · intro empty
    have chars := congrArg String.toList empty
    rw [Text.toList_numbered] at chars
    exact Decimal.digitChars_ne_nil i (List.append_eq_nil_iff.mp chars).2
  · rw [Text.toList_numbered, List.forall_mem_append]
    exact ⟨plain.2, digits⟩

/-- The entries that the applications make. -/
inductive Addressed.Made : Addressed → Prop
  | ofPayload {target : Address} {v : Json} : target.Parsed → IsPayload v →
    Made (.ofPayload target v)
  | ofTarget {target : Address} : target.Parsed → Made (.ofTarget target)

namespace Addressed.Made

theorem portable {e : Addressed} (made : e.Made) : e.Portable := by
  cases made with
  | @ofPayload target v parsed payload =>
    refine ⟨parsed, ?_⟩
    rintro _ ⟨⟩
    obtain ⟨fields, rfl⟩ := payload.isObject
    exact ⟨by simp [Json.sorted], Json.ordered_sorted _⟩
  | ofTarget parsed =>
    refine ⟨parsed, ?_⟩
    rintro _ ⟨⟩

theorem fits {e : Addressed} (made : e.Made) : ∀ v ∈ e.payload, v.Fits (·.isFinite = true) 3 := by
  cases made with
  | ofPayload _ payload =>
    rintro _ ⟨⟩
    exact payload.fits.sorted
  | ofTarget _ => rintro _ ⟨⟩

end Addressed.Made

theorem CommandSequence.portable_of_made {s : CommandSequence}
    (made : ∀ c ∈ s.commands, ∀ e ∈ c.addressed, e.Made) : s.Portable where
  commands c member e here := (made c member e here).portable
  fits := (fits_toJson fun c member e here => (made c member e here).fits).deeper (by decide)

namespace FakeReadout

theorem handlers_parsed (f : FakeReadout) : ∀ a ∈ f.handlers, a.Parsed := by
  unfold handlers
  cases f.softwareTpg <;> decide

theorem order_parsed (f : FakeReadout) :
    ∀ a ∈ Address.exact "fake_source" :: f.handlers, a.Parsed :=
  List.forall_mem_cons.mpr ⟨by decide, f.handlers_parsed⟩

theorem conf_made (f : FakeReadout) : ∀ e ∈ f.conf.addressed, e.Made := by
  simp only [Command.addressed, conf, Command.ofPayloads, List.forall_mem_cons,
    List.forall_mem_append, List.forall_mem_map]
  refine ⟨⟨.ofPayload (by decide) f.sourceConf.isPayload, ?_⟩, ?_⟩
  · intro i _
    exact .ofPayload (Address.parsed_numbered (by decide) i) (f.dataHandlerConf i).isPayload
  · split
    · refine List.forall_mem_map.mpr ?_
      intro i _
      exact .ofPayload (Address.parsed_numbered (by decide) i) (f.tpHandlerConf i).isPayload
    · simp

theorem commands_made (f : FakeReadout) (t : Topology) :
    ∀ c ∈ (f.commands t).commands, ∀ e ∈ c.addressed, e.Made := by
  intro c member
  simp only [commands, List.mem_cons, List.not_mem_nil, or_false] at member
  rcases member with rfl | rfl | rfl | rfl | rfl
  · simp [Command.addressed, Command.ofTopology]
  · exact f.conf_made
  · refine List.forall_mem_map.mpr ?_
    intro a target
    have parsed := f.order_parsed a ((List.perm_append_singleton ..).mem_iff.mp target)
    exact .ofPayload parsed (RunStart.isPayload _)
  · refine List.forall_mem_map.mpr ?_
    intro a target
    exact .ofPayload (f.order_parsed a target) (NoParameters.isPayload _)
  · refine List.forall_mem_cons.mpr ?_
    exact ⟨.ofPayload (by decide) (NoParameters.isPayload _), by simp⟩

end FakeReadout

namespace MiniDaq

theorem conf_made (m : MiniDaq) (tokens : TokenSplit) :
    ∀ e ∈ (m.conf tokens).addressed, e.Made := by
  simp only [Command.addressed, conf, Command.ofPayloads, Command.withStates,
    List.forall_mem_cons, List.forall_mem_append, List.forall_mem_map]
  refine ⟨⟨⟨.ofPayload (by decide) (TriggerConf.isPayload _),
    .ofPayload (by decide) (RequestConf.isPayload _),
    .ofPayload (by decide) (FragmentConf.isPayload _),
    .ofPayload (by decide) (DataWriterConf.isPayload _),
    .ofPayload (by decide) (CardReaderConf.isPayload _), by simp⟩, fun i _ => ?_⟩, fun i _ => ?_⟩
  · exact .ofPayload (Address.parsed_numbered (by decide) i) (m.handlerConf i).isPayload
  · exact .ofPayload (Address.parsed_numbered (by decide) i) (m.recorderConf i).isPayload

theorem startOrder_parsed : ∀ a ∈ startOrder, a.Parsed := by decide

theorem commands_made (m : MiniDaq) (tokens : TokenSplit) (t : Topology) :
    ∀ c ∈ (m.commands tokens t).commands, ∀ e ∈ c.addressed, e.Made := by
  intro c member
  rcases mem_commands.mp member with rfl | everything | rfl | ⟨seconds, _, rfl⟩
  · simp [Command.addressed, Command.ofTopology, Command.withStates]
  · simp only [common, List.mem_cons, List.not_mem_nil, or_false] at everything
    rcases everything with rfl | rfl | rfl | rfl | rfl
    · exact m.conf_made tokens
    · refine List.forall_mem_map.mpr ?_
      intro a target
      exact .ofPayload (startOrder_parsed a target) (RunStart.isPayload _)
    · refine List.forall_mem_map.mpr ?_
      intro a target
      exact .ofTarget (startOrder_parsed a (stopOrder_perm.mem_iff.mpr target))
    · refine List.forall_mem_cons.mpr ?_
      exact ⟨.ofTarget (by decide), by simp⟩
    · refine List.forall_mem_cons.mpr ?_
      exact ⟨.ofTarget (by decide), by simp⟩
  · refine List.forall_mem_cons.mpr ?_
    exact ⟨.ofPayload (by decide) (TriggerResume.isPayload _), by simp⟩
  · refine List.forall_mem_cons.mpr ?_
    exact ⟨.ofPayload (by decide) (Recording.isPayload _), by simp⟩

end MiniDaq

/-- A sequence whose addresses can be told from their text and whose payloads are never null is read
back from its document, as far as its numbers are. All generated sequences are such. -/
theorem documents_read_back :
    (∀ a : Address, a.Parsed ↔ ∃ text, Address.ofText? text = some a) ∧
      (∀ s : CommandSequence, s.Portable →
        (∀ x ∈ s.toJson.floats, x.isFinite = true → x.ReadsBack) →
          CommandSequence.ofText? s.document = some s) ∧
      (∀ (f : FakeReadout) (r : Registry) (s : CommandSequence), f.generate r = .ok s →
        s.Portable) ∧
      ∀ (m : MiniDaq) (r : Registry) (s : CommandSequence), m.generate r = .ok s →
        s.Portable := by
  refine ⟨fun a => Address.parsed_iff, ?_, ?_, ?_⟩
  · intro s portable numbers
    exact CommandSequence.ofText?_document portable numbers
  · intro f r s generated
    obtain rfl := FakeReadout.eq_of_generate generated
    exact CommandSequence.portable_of_made (f.commands_made f.plan.topology)
  · intro m r s generated
    obtain ⟨tokens, _, rfl⟩ := MiniDaq.eq_of_generate generated
    exact CommandSequence.portable_of_made (m.commands_made tokens m.plan.topology)

/-- The document of the standard fake readout is read back: the numbers of its clock and of its
latency buffers are. -/
theorem standard_document_reads_back :
    ∃ s, FakeReadout.standard.generate .builtin = .ok s ∧
      CommandSequence.ofText? s.document = some s := by
  obtain ⟨s, generated⟩ := FakeReadout.standard.generate_builtin_ok (by decide) (by decide)
  refine ⟨s, generated, documents_read_back.2.1 s
    (documents_read_back.2.2.1 _ _ s generated) fun x inside _ => ?_⟩
  obtain rfl := FakeReadout.eq_of_generate generated
  have numbers : ∀ c ∈ FakeReadout.standard.conf :: FakeReadout.standard.start ::
      FakeReadout.standard.stop :: [FakeReadout.scrap], ∀ e ∈ c.addressed, ∀ v ∈ e.payload,
        ∀ x ∈ v.floats, x.ReadsBack := by decide +kernel
  have made := FakeReadout.standard.commands_made FakeReadout.standard.plan.topology
  apply Json.Fits.of_mem_floats (CommandSequence.fits_toJson ?_) x inside
  intro c member e here v payload
  apply ((made c member e here).fits v payload).of_floats
  intro y within _
  rcases List.mem_cons.mp member with rfl | later
  · simp [Command.addressed, Command.ofTopology] at here
  · exact numbers c later e here v payload y within

end ReadoutControl
