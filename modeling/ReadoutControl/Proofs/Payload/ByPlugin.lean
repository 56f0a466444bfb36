import ReadoutControl.Application.Clock
import ReadoutControl.Application.Dimensions
import ReadoutControl.Proofs.Payload.Rates

set_option autoImplicit false

/-!
The configuration of a module is read for the plugin of the module. One that was written is read back,
with its numbers as they are read, exactly when those numbers are finite.
-/

namespace ReadoutControl

open Json Json.Node

/-- The configuration of a module, as its plugin takes it. -/
inductive ModuleConf where
  | cardReader (c : CardReaderConf)
  | linkHandler (c : LinkHandlerConf)
  | recorder (c : RecorderConf)
  | trigger (c : TriggerConf)
  | request (c : RequestConf)
  | fragments (c : FragmentConf)
  | writer (c : DataWriterConf)
  deriving DecidableEq

namespace ModuleConf

def plugin : ModuleConf → String
  | cardReader _ => "FakeCardReader"
  | linkHandler _ => "DataLinkHandler"
  | recorder _ => "DataRecorder"
  | trigger _ => "TriggerDecisionEmulator"
  | request _ => "RequestGenerator"
  | fragments _ => "FragmentReceiver"
  | writer _ => "DataWriter"

def toJson : ModuleConf → Json
  | cardReader c => c.toJson
  | linkHandler c => c.toJson
  | recorder c => c.toJson
  | trigger c => c.toJson
  | request c => c.toJson
  | fragments c => c.toJson
  | writer c => c.toJson

/-- Reads what modules of the plugin are configured with. -/
def read? (plugin : String) (node : Node) : Option ModuleConf :=
  match plugin with
  | "FakeCardReader" => (CardReaderConf.read? node).map cardReader
  | "DataLinkHandler" => (LinkHandlerConf.read? node).map linkHandler
  | "DataRecorder" => (RecorderConf.read? node).map recorder
  | "TriggerDecisionEmulator" => (TriggerConf.read? node).map trigger
  | "RequestGenerator" => (RequestConf.read? node).map request
  | "FragmentReceiver" => (FragmentConf.read? node).map fragments
  | "DataWriter" => (DataWriterConf.read? node).map writer
  | _ => none

/-- The numbers without which the configuration is not complete. -/
def numbers : ModuleConf → List Binary64
  | cardReader c => [c.rateKhz]
  | linkHandler c => [c.latencyBufferSize, c.popLimit, c.popSize]
  | trigger c => [c.clockFrequency]
  | _ => []

def reread : ModuleConf → ModuleConf
  | cardReader c => cardReader c.reread
  | linkHandler c => linkHandler c.reread
  | trigger c => trigger c.reread
  | c => c

/-- The rates, sizes and ticks are those of the clock; the interval between triggers is that of the
trigger rate, which there is if there are triggers. -/
def Follows (clock : Clock) (triggerRateHz : Option Binary64) : ModuleConf → Prop
  | cardReader c =>
    c.rateKhz = clock.rateKhz ∧ ∀ x, c.tpRate = some (.khz x) → x = clock.rateKhz
  | linkHandler c =>
    c.latencyBufferSize = clock.latencyBufferSize ∧
      c.popLimit = Dimensions.popLimit ∧ c.popSize = Dimensions.popSize
  | trigger c =>
    c.clockFrequency = clock.frequencyHz ∧ c.triggerDelay = clock.triggerDelay ∧
      ∃ rateHz ∈ triggerRateHz, c.triggerInterval = clock.triggerInterval rateHz
  | _ => True

/-- What is read where the configuration was written. -/
def settled (c : ModuleConf) : Option ModuleConf :=
  if ∀ x ∈ c.numbers, x.isFinite = true then some c.reread else none

theorem reread_toJson (c : ModuleConf) : c.toJson.reread = c.reread.toJson := by
  cases c with
  | cardReader c => exact c.reread_toJson
  | linkHandler c => exact c.reread_toJson
  | trigger c => exact c.reread_toJson
  | recorder c => simp [toJson, reread, RecorderConf.toJson, reread_obj]
  | request c =>
    simp [toJson, reread, RequestConf.toJson, RequestRoute.toJson, reread_obj, reread_arr,
      Function.comp_def]
  | fragments c => simp [toJson, reread, FragmentConf.toJson, reread_obj]
  | writer c =>
    simp [toJson, reread, DataWriterConf.toJson, DataStoreConf.toJson, FileNaming.toJson,
      FileLayout.toJson, reread_obj]

theorem plugin_reread (c : ModuleConf) : c.reread.plugin = c.plugin := by cases c <;> rfl

theorem numbers_reread (c : ModuleConf) :
    c.reread.numbers = c.numbers.map Binary64.reread := by cases c <;> rfl

variable {c : ModuleConf} {clock : Clock} {triggerRateHz : Option Binary64}

theorem read?_tree_of_finite (finite : ∀ x ∈ c.numbers, x.isFinite = true)
    (follows : c.Follows clock triggerRateHz) :
    read? c.plugin c.reread.toJson.tree = some c.reread := by
  have kept {x : Binary64} (member : x ∈ c.numbers) : x.reread.isFinite = true := by
    rw [Binary64.isFinite_reread]
    exact finite x member
  cases c with
  | cardReader c =>
    have tpRate : ∀ x, c.reread.tpRate = some (.khz x) → x.isFinite = true := by
      intro x set
      obtain ⟨rate, tpRate, same⟩ := Option.map_eq_some_iff.mp set
      cases rate with
      | disabled => cases same
      | khz y =>
        obtain rfl := TpRate.khz.inj same
        rw [follows.2 y tpRate, ← follows.1]
        exact kept (by simp [numbers])
    have back := CardReaderConf.read?_tree (c := c.reread) (kept (by simp [numbers])) tpRate
    simp [plugin, read?, reread, toJson, back]
  | linkHandler c =>
    have back := LinkHandlerConf.read?_tree (c := c.reread) (kept (by simp [numbers]))
      (kept (by simp [numbers])) (kept (by simp [numbers]))
    simp [plugin, read?, reread, toJson, back]
  | trigger c =>
    have back := TriggerConf.read?_tree (c := c.reread) (kept (by simp [numbers]))
    simp [plugin, read?, reread, toJson, back]
  | recorder c => simp [plugin, read?, reread, toJson, c.read?_tree]
  | request c => simp [plugin, read?, reread, toJson, c.read?_tree]
  | fragments c => simp [plugin, read?, reread, toJson, c.read?_tree]
  | writer c => simp [plugin, read?, reread, toJson, c.read?_tree]

theorem isFinite_of_read?_tree {d : ModuleConf}
    (read : read? c.plugin c.toJson.tree = some d) : ∀ x ∈ c.numbers, x.isFinite = true := by
  cases c with
  | cardReader c =>
    simp only [plugin, read?, toJson, Option.map_eq_some_iff] at read
    obtain ⟨e, read, _⟩ := read
    simpa [numbers] using CardReaderConf.isFinite_of_read?_tree read
  | linkHandler c =>
    simp only [plugin, read?, toJson, Option.map_eq_some_iff] at read
    obtain ⟨e, read, _⟩ := read
    simpa [numbers] using LinkHandlerConf.isFinite_of_read?_tree read
  | trigger c =>
    simp only [plugin, read?, toJson, Option.map_eq_some_iff] at read
    obtain ⟨e, read, _⟩ := read
    simpa [numbers] using TriggerConf.isFinite_of_read?_tree read
  | _ => simp [numbers]

/-- A number that is not finite stands as null in the document, and the configuration is refused. -/
theorem read?_reread (follows : c.Follows clock triggerRateHz) :
    read? c.plugin c.toJson.reread.tree = c.settled := by
  rw [reread_toJson, settled]
  split
  · next finite => exact read?_tree_of_finite finite follows
  · next infinite =>
    cases read : read? c.plugin c.reread.toJson.tree with
    | none => rfl
    | some d =>
      have finite := isFinite_of_read?_tree (c := c.reread) (c.plugin_reread ▸ read)
      rw [numbers_reread, List.forall_mem_map] at finite
      exact absurd (fun x member => x.isFinite_reread ▸ finite x member) infinite

/-- Where the numbers of the clock are read back, the configuration is. -/
theorem settled_eq (follows : c.Follows clock triggerRateHz)
    (numbers : ∀ x ∈ [clock.rateKhz, clock.latencyBufferSize, clock.frequencyHz,
      Dimensions.popLimit, Dimensions.popSize], x.ReadsBack) : c.settled = some c := by
  simp only [List.forall_mem_cons, List.not_mem_nil, false_implies, implies_true, and_true]
    at numbers
  obtain ⟨rate, latency, frequency, limit, size⟩ := numbers
  cases c with
  | cardReader c =>
    obtain ⟨same, tpSame⟩ := follows
    rw [← same] at rate tpSame
    have tpRate : c.tpRate.map TpRate.reread = c.tpRate := by
      cases set : c.tpRate with
      | none => rfl
      | some tp =>
        cases tp with
        | disabled => rfl
        | khz x => simp [TpRate.reread, tpSame x set, rate.reread_eq]
    simp [settled, ModuleConf.numbers, reread, CardReaderConf.reread, rate.isFinite,
      rate.reread_eq, tpRate]
  | linkHandler c =>
    obtain ⟨sameLatency, sameLimit, sameSize⟩ := follows
    rw [← sameLatency] at latency
    rw [← sameLimit] at limit
    rw [← sameSize] at size
    simp [settled, ModuleConf.numbers, reread, LinkHandlerConf.reread, latency.isFinite,
      limit.isFinite, size.isFinite, latency.reread_eq, limit.reread_eq, size.reread_eq]
  | trigger c =>
    obtain ⟨same, _⟩ := follows
    rw [← same] at frequency
    simp [settled, ModuleConf.numbers, reread, TriggerConf.reread, frequency.isFinite,
      frequency.reread_eq]
  | _ => simp [settled, ModuleConf.numbers, reread]

end ModuleConf

end ReadoutControl
