import Mathlib.Data.List.Forall2
import ReadoutControl.Command.Document
import ReadoutControl.Proofs.Json.Depth

set_option autoImplicit false

/-!
The document of a sequence and the blocks of its commands. Both show the same texts: a command
stands in the document as it is printed alone but further to the right, and so does its topology,
which is all that its block shows.
-/

namespace ReadoutControl

open Json Text

/-- A block of a command, and where its text stands in the text of the command. -/
structure Command.EchoedBy (c : Command) (block : String) : Prop where
  /-- The topology stands behind the key of the data, its later lines two levels further in. -/
  topology : ∀ t, c.body = .topology t → block = t.toJson.document ∧
    ∃ rest, indented 4 c.toJson.document.toList =
      "    \x7b\n        \"data\": ".toList ++ hanging 8 block.toList ++ ",\n".toList ++ rest
  conf : c.topology? = none → c.id = "conf" → block = c.toJson.document
  other : c.topology? = none → c.id ≠ "conf" → block.toList =
    List.replicate 80 '=' ++ "\n".toList ++ title c.id.toList ++ "\n\n ".toList ++
      c.toJson.document.toList

namespace Json

variable {indent depth : Nat}

theorem prettyItems_eq (indent depth : Nat) (items : List Json) :
    prettyItems indent depth items =
      items.flatMap (fun item => ',' :: (newline indent (depth + 1) ++
        pretty indent (depth + 1) item)) ++ (newline indent depth ++ [']']) := by
  induction items with
  | nil => rfl
  | cons item items ih => simp [prettyItems, ih]

/-- The items of an array on lines of their own, with commas in between. -/
theorem pretty_arr {items : List Json} (some_item : items ≠ []) :
    pretty indent depth (.arr items) =
      '[' :: ([','].intercalate (items.map fun item => newline indent (depth + 1) ++
        pretty indent (depth + 1) item) ++ (newline indent depth ++ [']'])) := by
  have separated (first : List Char) (rest : List Json) (write : Json → List Char) :
      [','].intercalate (first :: rest.map write) =
        first ++ rest.flatMap fun item => ',' :: write item := by
    induction rest generalizing first with
    | nil => simp
    | cons item rest ih => simp [ih]
  cases items with
  | nil => exact absurd rfl some_item
  | cons item items => simp [pretty, prettyItems_eq, separated]

theorem newline_indented (v : Json) :
    newline 4 1 ++ pretty 4 1 v = '\n' :: indented 4 (pretty 4 0 v) := by
  rw [indented_eq, pretty_deeper 4 0 1]
  rfl

theorem toList_document (v : Json) : v.document.toList = v.sorted.pretty 4 0 :=
  String.toList_ofList

end Json

namespace Command

/-- What is written of a command beside its data. -/
def labels (c : Command) : List (String × Json) :=
  [("id", .str c.id)] ++ stateField "entry_state" c.entry ++ stateField "exit_state" c.exit

theorem data_lt_of_mem_labels {c : Command} {field : String × Json} (member : field ∈ c.labels) :
    "data" < field.1 := by
  have names : ∀ field ∈ c.labels, field.1 ∈ ["id", "entry_state", "exit_state"] := by
    cases entry : c.entry <;> cases exit : c.exit <;>
      simp [labels, entry, exit, stateField, optionalField]
  have below : ∀ name ∈ ["id", "entry_state", "exit_state"], "data" < name := by decide
  exact below field.1 (names field member)

/-- The data comes first among the keys of a command, and never last. -/
theorem sorted_toJson (c : Command) :
    ∃ field rest, c.toJson.sorted = .obj (("data", c.body.toJson.sorted) :: field :: rest) := by
  have sorted : c.toJson.sorted = .obj (("data", c.body.toJson.sorted) ::
      sortFields (c.labels.map fun field => (field.1, field.2.sorted))) := by
    rw [toJson, ← labels, Json.sorted, sortedFields_eq, List.map_append, List.map_singleton,
      sortFields_concat_of_below]
    simp only [List.forall_mem_map]
    exact fun _ => data_lt_of_mem_labels
  have listed : "id" ∈ (c.labels.map fun field => (field.1, field.2.sorted)).map (·.1) := by
    simp [labels]
  rw [← isSome_last_iff, ← lookup_sortFields] at listed
  rw [sorted]
  cases others : sortFields (c.labels.map fun field => (field.1, field.2.sorted)) with
  | cons field rest => exact ⟨field, rest, rfl⟩
  | nil =>
    rw [others] at listed
    exact absurd listed Bool.false_ne_true

/-- The data of a command behind its key, as far as the next key. -/
theorem indented_data (c : Command) :
    ∃ rest, indented 4 c.toJson.document.toList =
      "    \x7b\n        \"data\": ".toList ++ hanging 8 c.body.toJson.document.toList ++
        ",\n".toList ++ rest := by
  obtain ⟨⟨key, value⟩, fields, shape⟩ := c.sorted_toJson
  obtain ⟨rest, text⟩ : ∃ rest, pretty 4 0 c.toJson.sorted =
      "\x7b\n    \"data\": ".toList ++
        (pretty 4 1 c.body.toJson.sorted ++ ',' :: '\n' :: rest) := by
    rw [shape]
    exact ⟨_, rfl⟩
  have body : hanging 4 (pretty 4 1 c.body.toJson.sorted) =
      hanging 8 c.body.toJson.document.toList := by
    rw [toList_document, pretty_deeper 4 0 1, hanging_hanging]
  have key : List.replicate 4 ' ' ++ hanging 4 "\x7b\n    \"data\": ".toList =
      "    \x7b\n        \"data\": ".toList := by decide
  refine ⟨List.replicate 4 ' ' ++ hanging 4 rest, ?_⟩
  rw [toList_document, text, indented_eq, hanging_append, hanging_append, body, ← key]
  simp [hanging_cons]

theorem echoedBy_block (c : Command) : c.EchoedBy c.block := by
  refine ⟨fun t carried => ?_, fun none conf => ?_, fun none other => ?_⟩
  · have block : c.block = c.body.toJson.document := by
      simp only [Command.block, carried, CommandBody.toJson]
    rw [block]
    refine ⟨?_, c.indented_data⟩
    rw [carried, CommandBody.toJson]
  · cases body : c.body with
    | topology t => simp [topology?, body] at none
    | payloads entries => simp [Command.block, body, conf]
  · cases body : c.body with
    | topology t => simp [topology?, body] at none
    | payloads entries => simp [Command.block, body, other, banner, bannerWidth]

end Command

/-- The document of a sequence has the texts of its commands in order, each on lines of its own and
four blanks further in, and each of the blocks shows the text of its command. -/
theorem CommandSequence.document_echoed (s : CommandSequence) :
    (s.commands = [] → s.document = "[]") ∧
    (s.commands ≠ [] → s.document.toList =
      '[' :: ([','].intercalate
        (s.commands.map fun c => '\n' :: indented 4 c.toJson.document.toList) ++ ['\n', ']'])) ∧
    List.Forall₂ Command.EchoedBy s.commands s.blocks := by
  refine ⟨fun none => ?_, fun some_command => ?_, ?_⟩
  · rw [document, toJson, none]
    rfl
  · rw [document, toList_document, toJson, Json.sorted, sortedItems_eq, List.map_map,
      pretty_arr (by simpa using some_command), List.map_map]
    have text (c : Command) : newline 4 1 ++ pretty 4 1 c.toJson.sorted =
        '\n' :: indented 4 c.toJson.document.toList := by
      rw [newline_indented, toList_document]
    simp only [Function.comp_def, text]
    rfl
  · rw [blocks, List.forall₂_map_right_iff]
    exact List.forall₂_same.mpr fun c _ => c.echoedBy_block

/-- A topology with a line break in a name, a `conf`, a command with a banner, and no command. -/
theorem CommandSequence.document_echoed_lines :
    (CommandSequence.mk []).document = "[]" ∧
    ∃ init conf start : Command, init = .ofTopology ⟨[⟨"a\nb", .spsc, 5⟩], []⟩ ∧
      conf = .ofPayloads "conf" [.ofTarget (.exact "tde")] ∧ start = .ofPayloads "start" [] ∧
      (CommandSequence.mk [init, conf, start]).document.toList =
        '[' :: ([','].intercalate ([init, conf, start].map fun c =>
          '\n' :: indented 4 c.toJson.document.toList) ++ ['\n', ']']) ∧
      List.Forall₂ Command.EchoedBy [init, conf, start]
        (CommandSequence.mk [init, conf, start]).blocks := by
  refine ⟨(CommandSequence.document_echoed ⟨[]⟩).1 rfl, _, _, _, rfl, rfl, rfl, ?_⟩
  exact (CommandSequence.document_echoed ⟨[_, _, _]⟩).2.imp_left fun text => text (by simp)

end ReadoutControl
