import Mathlib.Data.List.TakeWhile
import ReadoutControl.Proofs.MiniDaq.Configuration
import ReadoutControl.Proofs.MiniDaq.Flow
import ReadoutControl.Proofs.MiniDaq.Generation
import ReadoutControl.Proofs.Program.Route

set_option autoImplicit false

/-!
Where the mini DAQ records. Every recorder writes a file of its own, named for its link, directly in
the recording directory, and slashes at the end of the directory make no difference. Only the empty
text, which leads to the directory at hand, is taken for the root.
-/

namespace ReadoutControl.MiniDaq

open Text (numbered)

/-- The name of the file for a link. -/
def recordingName (l : Nat) : String := numbered "output_" l ++ ".out"

/-- The directory that the recordings go to. -/
def recordingRoute (directory : String) : Route :=
  if directory = "" then .root else .ofText directory

/-- The recorders of the links are configured with files of their own, each of which has the name
for its link and stands directly in the directory at the end of the route. -/
structure RecordsInto (t : Topology) (conf : Command) (n : Nat) (directory : Route)
    (file : Nat → String) : Prop where
  recorders : (t.modules.filter (·.plugin = "DataRecorder")).map (·.inst) =
    (List.range n).map (numbered "data_recorder_")
  set : ∀ l < n, conf.setting? (numbered "data_recorder_" l) "output_file" = some (.str (file l))
  distinct : ((List.range n).map file).Nodup
  named : ∀ l < n, (Path.ofText (file l)).pieces.getLast? = some (recordingName l)
  inside : ∀ l < n, Route.ofText (file l) = directory.enter (recordingName l)

section Directory

variable (directory : String)

/-- All that is dropped of a directory are slashes. -/
theorem exists_trimSlashes :
    ∃ n, directory.toList = (trimSlashes directory).toList ++ List.replicate n '/' := by
  let dropped := directory.toList.reverse.takeWhile (· = '/')
  have slashes : dropped = List.replicate dropped.length '/' :=
    List.eq_replicate_of_mem fun c member => by simpa using List.mem_takeWhile_imp member
  have split : dropped ++ directory.toList.reverse.dropWhile (· = '/') =
      directory.toList.reverse := List.takeWhile_append_dropWhile
  refine ⟨dropped.length, ?_⟩
  rw [slashes] at split
  simpa [trimSlashes] using congrArg List.reverse split.symm

theorem names_trimSlashes :
    (Path.ofText (trimSlashes directory)).names = (Path.ofText directory).names := by
  obtain ⟨n, slashes⟩ := exists_trimSlashes directory
  have same := Path.names_ofText_slashes (trimSlashes directory).toList n
  rwa [← slashes, String.ofList_toList, String.ofList_toList, eq_comm] at same

/-- What stands behind a trimmed directory and a slash begins as the directory does, unless that is
empty. -/
theorem head?_trimSlashes (rest : List Char) :
    ((trimSlashes directory).toList ++ '/' :: rest).head? = some '/' ↔
      directory = "" ∨ directory.toList.head? = some '/' := by
  obtain ⟨n, slashes⟩ := exists_trimSlashes directory
  rw [← String.toList_eq_nil_iff, slashes]
  cases (trimSlashes directory).toList with
  | nil => cases n <;> simp [List.replicate_succ]
  | cons c others => simp

theorem fromRoot_recordingRoute :
    (recordingRoute directory).fromRoot = true ↔
      directory = "" ∨ directory.toList.head? = some '/' := by
  unfold recordingRoute
  split
  · next empty => simp [Route.root, empty]
  · next named => simp [Route.ofText, named]

theorem names_recordingRoute :
    (recordingRoute directory).names = (Path.ofText directory).names := by
  unfold recordingRoute
  split
  · next empty =>
    subst empty
    decide
  · rfl

/-- The empty text alone is not taken for what it says. -/
theorem recordingRoute_eq_ofText_iff :
    recordingRoute directory = .ofText directory ↔ directory ≠ "" := by
  unfold recordingRoute
  split
  · next empty =>
    subst empty
    decide
  · next named => simp [named]

/-- A file in a trimmed directory stands where the directory leads. -/
theorem ofText_trimSlashes {name : String} (plain : '/' ∉ name.toList) (named : name ≠ "") :
    Route.ofText (trimSlashes directory ++ "/" ++ name) =
      (recordingRoute directory).enter name := by
  have names : (Path.ofText (trimSlashes directory ++ "/" ++ name)).names =
      (recordingRoute directory).names ++ [name] := by
    rw [Path.names_ofText_append, names_trimSlashes, Path.names_ofText_name plain named,
      names_recordingRoute]
  have start : decide ((trimSlashes directory ++ "/" ++ name).toList.head? = some '/') =
      (recordingRoute directory).fromRoot := by
    rw [Bool.eq_iff_iff, decide_eq_true_iff, fromRoot_recordingRoute,
      ← head?_trimSlashes directory name.toList]
    simp
  rw [Route.ofText, names, start]
  rfl

end Directory

theorem slash_notMem_recordingName (l : Nat) : '/' ∉ (recordingName l).toList := by
  have digits : '/' ∉ Decimal.digitChars l := fun member =>
    absurd (Decimal.isDigit_of_mem_digitChars member) (by decide)
  simp [recordingName, Text.toList_numbered, digits]

theorem recordingName_ne_empty (l : Nat) : recordingName l ≠ "" := by
  simp [recordingName, ← String.toList_eq_nil_iff]

theorem recordingName_inj {l k : Nat} (same : recordingName l = recordingName k) : l = k := by
  have texts := congrArg String.toList same
  rw [recordingName, recordingName, String.toList_append, String.toList_append] at texts
  have numbers := String.toList_injective (List.append_cancel_right texts)
  exact ((Text.numbered_inj (by decide) (by decide)).mp numbers).2

variable {m : MiniDaq}

theorem recordingFile_eq (m : MiniDaq) (l : Nat) :
    m.recordingFile l = trimSlashes m.recordingDirectory ++ "/" ++ recordingName l :=
  String.append_assoc

theorem last_recordingFile (m : MiniDaq) (l : Nat) :
    (Path.ofText (m.recordingFile l)).pieces.getLast? = some (recordingName l) := by
  rw [recordingFile_eq, Path.pieces_ofText_append,
    Path.pieces_ofText_name (slash_notMem_recordingName l), List.getLast?_concat]

theorem recordingFile_inj {l k : Nat} (same : m.recordingFile l = m.recordingFile k) : l = k := by
  have names := last_recordingFile m l
  rw [same, last_recordingFile m k] at names
  exact (recordingName_inj (Option.some.inj names)).symm

theorem conf_recordsInto (m : MiniDaq) (tokens : TokenSplit) :
    RecordsInto m.plan.topology (m.conf tokens) m.dataLinks.toNat
      (recordingRoute m.recordingDirectory) m.recordingFile where
  recorders := by
    rw [recorders_eq, List.map_map]
    rfl
  set _ small := m.recorder_setting tokens "output_file" (List.mem_range.mpr small)
  distinct := List.nodup_range.map fun _ _ => recordingFile_inj
  named l _ := last_recordingFile m l
  inside l _ := by
    rw [recordingFile_eq]
    exact ofText_trimSlashes _ (slash_notMem_recordingName l) (recordingName_ne_empty l)

/-- What is configured leaves no choice of the directory, if there is a link. -/
theorem RecordsInto.directory_eq {t : Topology} {conf : Command} {n : Nat} {d d' : Route}
    {file file' : Nat → String} (records : RecordsInto t conf n d file)
    (again : RecordsInto t conf n d' file') (links : 0 < n) : d = d' := by
  have files : file 0 = file' 0 :=
    Json.str.inj (Option.some.inj ((records.set 0 links).symm.trans (again.set 0 links)))
  have routes := (records.inside 0 links).symm.trans (files ▸ again.inside 0 links)
  obtain ⟨start, names⟩ := Route.mk.inj routes
  exact Route.ext start (List.append_cancel_right names)

/-- Every generated mini DAQ records into the directory that was chosen, unless that is the empty
text, which is taken for the root. -/
theorem generated_recordsInto {m : MiniDaq} {r : Registry} {s : CommandSequence}
    (generated : m.generate r = .ok s) :
    ∃ t conf, s.topology? = some t ∧ s.command? "conf" = some conf ∧
      RecordsInto t conf m.dataLinks.toNat (recordingRoute m.recordingDirectory)
        m.recordingFile ∧
      (0 < m.dataLinks.toNat →
        ((∃ file, RecordsInto t conf m.dataLinks.toNat (.ofText m.recordingDirectory) file) ↔
          m.recordingDirectory ≠ "")) := by
  obtain ⟨tokens, _, rfl⟩ := eq_of_generate generated
  have records := m.conf_recordsInto tokens
  refine ⟨_, _, rfl, rfl, records, fun links => ?_⟩
  rw [← recordingRoute_eq_ofText_iff]
  constructor
  · rintro ⟨file, again⟩
    exact records.directory_eq again links
  · intro same
    exact ⟨m.recordingFile, same ▸ records⟩

/-- The slashes at the end are dropped, and the doubled ones between names do not count. -/
theorem generated_recordsInto_slashes : ∃ s conf,
    generate { standard with recordingDirectory := "data//raw//" } .builtin = .ok s ∧
      s.command? "conf" = some conf ∧
      conf.setting? "data_recorder_1" "output_file" = some (.str "data//raw/output_1.out") ∧
      Route.ofText "data//raw/output_1.out" = ⟨false, ["data", "raw", "output_1.out"]⟩ := by
  have split : TokenSplit.ofCount? standard.tokenCount = some ⟨10, 0⟩ := by decide
  obtain ⟨s, generated⟩ :=
    generate_builtin_ok (m := { standard with recordingDirectory := "data//raw//" }) split
  obtain ⟨_, conf, _, configured, records, _⟩ := generated_recordsInto generated
  exact ⟨s, conf, generated, configured, records.set 1 (by decide), records.inside 1 (by decide)⟩

/-- The empty text leads to the directory at hand, but the files stand in the root. -/
theorem not_recordsInto_empty :
    ¬ ∀ (m : MiniDaq) (r : Registry) (s : CommandSequence), m.generate r = .ok s →
      ∃ t conf file, s.topology? = some t ∧ s.command? "conf" = some conf ∧
        RecordsInto t conf m.dataLinks.toNat (.ofText m.recordingDirectory) file := by
  intro claim
  have split : TokenSplit.ofCount? standard.tokenCount = some ⟨10, 0⟩ := by decide
  obtain ⟨s, generated⟩ :=
    generate_builtin_ok (m := { standard with recordingDirectory := "" }) split
  obtain ⟨t, conf, file, carried, configured, records⟩ := claim _ _ s generated
  obtain ⟨tokens, _, rfl⟩ := eq_of_generate generated
  obtain rfl := Option.some.inj carried
  obtain rfl := Option.some.inj configured
  have taken := (conf_recordsInto _ tokens).directory_eq records (by decide)
  exact (recordingRoute_eq_ofText_iff "").mp taken rfl

end ReadoutControl.MiniDaq
