import ReadoutControl.Command.Document
import ReadoutControl.Proofs.Json.Reading
import ReadoutControl.Proofs.Topology.Reading

set_option autoImplicit false

/-!
The document of a command sequence is read back as the sequence. Addresses are written as bare text
and told apart by it, so this needs addresses that a text can mean; a payload of null cannot be told
from an absent one.
-/

namespace ReadoutControl

open Json Json.Node

theorem NamePattern.ofText?_expr (p : NamePattern) : NamePattern.ofText? p.expr = some p := by
  unfold ofText?
  split
  · next regex found => exact congrArg some (eq_of_expr_eq rfl)
  · next none =>
    rw [p.regex_eq] at none
    contradiction

namespace Address

/-- An exact address without special characters, or a pattern that shows it is one. -/
def Parsed : Address → Prop
  | exact name => name ≠ "" ∧ ∀ c ∈ name.toList, c ∉ metaChars
  | pattern p => p.expr = "" ∨ ∃ c ∈ p.expr.toList, c ∈ metaChars

theorem looksLikePattern_iff {text : String} :
    looksLikePattern text = true ↔ text = "" ∨ ∃ c ∈ text.toList, c ∈ metaChars := by
  simp [looksLikePattern]

theorem looksLikePattern_eq_false_iff {text : String} :
    looksLikePattern text = false ↔ text ≠ "" ∧ ∀ c ∈ text.toList, c ∉ metaChars := by
  simp [looksLikePattern]

instance : (a : Address) → Decidable a.Parsed
  | exact _ => decidable_of_iff _ looksLikePattern_eq_false_iff
  | pattern _ => decidable_of_iff _ looksLikePattern_iff

theorem Parsed.ofText?_text {a : Address} (parsed : a.Parsed) : ofText? a.text = some a := by
  cases a with
  | exact name =>
    have plain := looksLikePattern_eq_false_iff.mpr parsed
    simp [ofText?, text, plain]
  | pattern p =>
    have special := looksLikePattern_iff.mpr parsed
    simp [ofText?, text, special, pattern?, p.ofText?_expr]

/-- The addresses that a text can mean. -/
theorem parsed_iff {a : Address} : a.Parsed ↔ ∃ text, ofText? text = some a := by
  constructor
  · exact fun parsed => ⟨a.text, parsed.ofText?_text⟩
  · rintro ⟨text, read⟩
    unfold ofText? at read
    split at read
    · next special =>
      obtain ⟨p, found, rfl⟩ := Option.map_eq_some_iff.mp read
      have same : p.expr = text := by
        unfold NamePattern.ofText? at found
        split at found
        · exact congrArg NamePattern.expr (Option.some.inj found).symm
        · contradiction
      subst same
      exact looksLikePattern_iff.mp special
    · next plain =>
      obtain rfl := Option.some.inj read
      exact looksLikePattern_eq_false_iff.mp (Bool.eq_false_iff.mpr plain)

theorem read?_tree {a : Address} (parsed : a.Parsed) : Address.read? a.toJson.tree = some a := by
  simp [Address.read?, toJson, text?_tree, parsed.ofText?_text]

end Address

/-- An entry that can be told from its text. -/
structure Addressed.Portable (e : Addressed) : Prop where
  target : e.target.Parsed
  payload : ∀ v ∈ e.payload, v ≠ .null ∧ v.Ordered

theorem Addressed.read?_tree {e : Addressed} (portable : e.Portable) :
    Addressed.read? e.toJson.tree = some e := by
  obtain ⟨record, found, lookup⟩ := record?_tree (v := e.toJson) rfl (by simp)
    ["match", "data"] []
  have target := required?_of_lookup (lookup "match") (Address.read?_tree portable.target)
  have data : optional? record "data" value? = some e.payload := by
    cases payload : e.payload with
    | none =>
      refine optional?_of_null ((lookup "data").trans ?_)
      rw [payload]
      rfl
    | some v =>
      have sound := portable.payload v payload
      refine optional?_of_lookup ((lookup "data").trans ?_) sound.1
        ((value?_tree v).trans (congrArg some sound.2.sorted_eq))
      rw [payload]
      rfl
  simp only [Addressed.read?, found, target, data, Option.bind_eq_bind, Option.bind_some]
  rfl

namespace CommandBody

theorem readPayloads?_tree {entries : List Addressed} (portable : ∀ e ∈ entries, e.Portable) :
    readPayloads? (payloads entries).toJson.tree = some entries := by
  obtain ⟨record, found, lookup⟩ := record?_tree (v := (payloads entries).toJson) rfl (by simp)
    ["modules"] []
  have modules := required?_of_lookup (lookup "modules")
    (list?_tree fun e member => Addressed.read?_tree (portable e member))
  simp only [readPayloads?, found, modules, Option.bind_eq_bind, Option.bind_some]

/-- Payloads are not mistaken for a topology, which has queues. -/
theorem topology?_payloads (entries : List Addressed) :
    Topology.read? (payloads entries).toJson.tree = none := by
  obtain ⟨record, found, lookup⟩ := record?_tree (v := (payloads entries).toJson) rfl (by simp)
    ["queues", "modules"] []
  have queues : required? record "queues" (list? Queue.read?) = none := by
    rw [required?, lookup]
    rfl
  simp only [Topology.read?, found, queues, Option.bind_eq_bind, Option.bind_some,
    Option.bind_none]

theorem read?_tree {body : CommandBody}
    (portable : ∀ entries, body = payloads entries → ∀ e ∈ entries, e.Portable) :
    CommandBody.read? body.toJson.tree = some body := by
  have whole : body.toJson.tree.value?.isNone = false := by simp [value?_tree]
  rw [CommandBody.read?, whole]
  cases body with
  | topology t => simp [toJson, Topology.read?_tree]
  | payloads entries =>
    simp [topology?_payloads, readPayloads?_tree (portable entries rfl)]

end CommandBody

theorem RunState.read?_tree (s : RunState) : RunState.read? (Json.str s.name).tree = some s := by
  cases s <;> decide

/-- A command whose entries can be told from their text. -/
def Command.Portable (c : Command) : Prop := ∀ e ∈ c.addressed, e.Portable

theorem Command.read?_tree {c : Command} (portable : c.Portable) :
    Command.read? c.toJson.tree = some c := by
  have distinct : (([("id", Json.str c.id)] ++ stateField "entry_state" c.entry ++
      stateField "exit_state" c.exit ++ [("data", c.body.toJson)]).map (·.1)).Nodup := by
    cases c.entry <;> cases c.exit <;> simp [stateField, optionalField]
  obtain ⟨record, found, lookup⟩ := record?_tree (v := c.toJson) rfl distinct
    ["id", "entry_state", "exit_state", "data"] []
  simp only [List.lookup_append, stateField, lookup_optionalField] at lookup
  have entryField : record.lookup "entry_state" =
      (c.entry.map fun s => Json.str s.name).map tree := by
    rw [lookup]
    cases c.entry <;> rfl
  have exitField : record.lookup "exit_state" =
      (c.exit.map fun s => Json.str s.name).map tree := by
    rw [lookup]
    cases c.exit <;> rfl
  have state (s : RunState) : Json.str s.name ≠ .null ∧
      RunState.read? (Json.str s.name).tree = some s := ⟨by simp, s.read?_tree⟩
  have entries : ∀ entries, c.body = .payloads entries → ∀ e ∈ entries, e.Portable := by
    intro entries body e member
    exact portable e (by simpa [addressed, body] using member)
  have id := required?_of_lookup (lookup "id") (text?_tree c.id)
  have entry := optional?_tree entryField fun s _ => state s
  have exit := optional?_tree exitField fun s _ => state s
  have body := required?_of_lookup (lookup "data") (CommandBody.read?_tree entries)
  simp only [Command.read?, found, id, entry, exit, body, Option.bind_eq_bind, Option.bind_some]
  rfl

namespace CommandSequence

/-- A sequence whose document tells all there is to it. The numbers are such as untyped values hold,
and the document nests no deeper than it is read. -/
structure Portable (s : CommandSequence) : Prop where
  commands : ∀ c ∈ s.commands, c.Portable
  fits : s.toJson.Fits (·.isFinite = true) maxDepth

variable {s : CommandSequence}

theorem read?_tree (portable : ∀ c ∈ s.commands, c.Portable) :
    CommandSequence.read? s.toJson.tree = some s := by
  have each := list?_tree fun c member => Command.read?_tree (portable c member)
  rw [CommandSequence.read?, toJson, each]
  rfl

/-- The document of a sequence is read as the sequence, if the numbers in it are read back. -/
theorem ofText?_document (portable : s.Portable)
    (numbers : ∀ x ∈ s.toJson.floats, x.isFinite = true → x.ReadsBack) :
    ofText? s.document = some s := by
  have fits := portable.fits.of_floats numbers
  rw [ofText?, document, Json.ofText?_document fits, Option.bind_some]
  exact read?_tree portable.commands

end CommandSequence

end ReadoutControl
