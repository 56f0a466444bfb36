import Mathlib.Data.List.Forall2
import Mathlib.Data.Set.List
import ReadoutControl.Proofs.Balance.Verdict
import ReadoutControl.Proofs.Json.Leaves
import ReadoutControl.Proofs.Json.Mapping
import ReadoutControl.Proofs.Json.Spacing

set_option autoImplicit false

/-!
Texts of pins. A map is read back from its own text, and a text that is read says no more than which
CPUs are listed where each application occurs last, and in it each thread.
-/

namespace ReadoutControl

open Json

namespace Json.Node

/-- An array with items of one kind. -/
inductive ArrayOf (P : Node → Prop) : Node → Prop
  | items {items : List Node} : (∀ item ∈ items, P item) → ArrayOf P (.arr items)

/-- Arrays of the same items, in any order and any number. -/
inductive SameItems : Node → Node → Prop
  | items {items others : List Node} :
    (∀ item, item ∈ items ↔ item ∈ others) → SameItems (.arr items) (.arr others)

/-- A number that a CPU can have. -/
inductive IsCpu : Node → Prop
  | number {n : Nat} : n < UInt64.size → IsCpu (.int n)

/-- Arrays of CPUs under threads under applications. -/
def IsPins : Node → Prop := ObjectOf (ObjectOf (ArrayOf IsCpu))

def ofCpu (cpu : UInt64) : Node := .int cpu.toNat

theorem ofCpu_injective : Function.Injective ofCpu := fun _ _ same =>
  UInt64.toNat_inj.mp (Int.ofNat_inj.mp (Node.int.inj same))

theorem isCpu_iff {item : Node} : item.IsCpu ↔ ∃ cpu, ofCpu cpu = item := by
  constructor
  · rintro (@⟨n, small⟩)
    exact ⟨.ofNat n, by rw [ofCpu, UInt64.toNat_ofNat_of_lt' small]⟩
  · rintro ⟨cpu, rfl⟩
    exact .number cpu.toNat_lt_size

theorem exists_map_ofCpu {items : List Node} :
    (∃ cpus : List UInt64, cpus.map ofCpu = items) ↔ ∀ item ∈ items, item.IsCpu := by
  simp only [isCpu_iff]
  exact Set.ext_iff.mp (Set.range_list_map ofCpu) items

/-- A scalar, or what cannot be read, in the place of a CPU. -/
def IsForeign (node : Node) : Prop := (∃ value, ofScalar value = node) ∧ ¬ node.IsCpu

theorem IsCpu.not_has {node : Node} (cpu : node.IsCpu) : ¬ node.Has IsForeign := by
  intro has
  cases has with
  | here foreign => exact foreign.2 cpu
  | item _ _ => exact nomatch cpu
  | field _ _ => exact nomatch cpu

theorem ArrayOf.not_has {node : Node} (array : node.ArrayOf IsCpu) : ¬ node.Has IsForeign := by
  intro has
  obtain @⟨items, each⟩ := array
  cases has with
  | here foreign =>
    obtain ⟨⟨value, same⟩, _⟩ := foreign
    cases value <;> exact nomatch same
  | item member has => exact (each _ member).not_has has

theorem ObjectOf.not_has {P : Node → Prop} (each : ∀ node, P node → ¬ node.Has IsForeign)
    {node : Node} (object : node.ObjectOf P) : ¬ node.Has IsForeign := by
  intro has
  obtain @⟨fields, values⟩ := object
  cases has with
  | here foreign =>
    obtain ⟨⟨value, same⟩, _⟩ := foreign
    cases value <;> exact nomatch same
  | field member has => exact each _ (values _ member) has

/-- Pins have no scalars but CPUs. -/
theorem IsPins.not_has {node : Node} (pins : node.IsPins) : ¬ node.Has IsForeign :=
  ObjectOf.not_has (fun _ => ObjectOf.not_has fun _ => ArrayOf.not_has) pins

theorem list?_uint64?_iff {node : Node} {cpus : List UInt64} :
    node.list? uint64? = some cpus ↔ node = .arr (cpus.map ofCpu) := by
  have each (items : List Node) :
      List.Forall₂ (fun cpu item => uint64? item = some cpu) cpus items ↔
        items = cpus.map ofCpu := by
    simp only [uint64?_eq_some_iff]
    rw [eq_comm, ← List.forall₂_eq_eq_eq, List.forall₂_map_left_iff]
    simp only [ofCpu, eq_comm]
  rw [list?_eq_some_iff]
  simp only [each, exists_eq_right]

end Json.Node

open Node

namespace CpuSet

variable {s t : CpuSet} {node other : Node}

/-- The set is that of the numbers that an array lists, and it lists nothing else. -/
inductive Written (s : CpuSet) : Node → Prop
  | array {items : List Node} :
    (∀ item, item ∈ items ↔ ∃ cpu ∈ s.cpus, .int cpu.toNat = item) → Written s (.arr items)

theorem mem_ofList {cpus : List UInt64} {cpu : UInt64} : cpu ∈ (ofList cpus).cpus ↔ cpu ∈ cpus := by
  induction cpus with
  | nil => rfl
  | cons first rest ih =>
    rw [List.mem_cons, ← ih]
    exact mem_insertCpu

theorem eq_of_mem_iff (same : ∀ cpu, cpu ∈ s.cpus ↔ cpu ∈ t.cpus) : s = t := by
  have cpus : s.cpus = t.cpus := s.ordered.eq_of_mem_iff t.ordered same
  cases s
  cases t
  cases cpus
  rfl

theorem ofList_cpus (s : CpuSet) : ofList s.cpus = s := eq_of_mem_iff fun _ => mem_ofList

theorem written_ofList (cpus : List UInt64) : (ofList cpus).Written (.arr (cpus.map ofCpu)) := by
  refine .array fun item => ?_
  simp only [mem_ofList, List.mem_map, ofCpu]

theorem Written.isCpu (written : s.Written node) : node.ArrayOf IsCpu := by
  obtain @⟨items, listed⟩ := written
  refine .items fun item member => isCpu_iff.mpr ?_
  obtain ⟨cpu, _, same⟩ := (listed item).mp member
  exact ⟨cpu, same⟩

/-- Two sets are the same just if they are written with the same items. -/
theorem Written.eq_iff (written : s.Written node) (written' : t.Written other) :
    node.SameItems other ↔ s = t := by
  obtain @⟨items, listed⟩ := written
  obtain @⟨others, listed'⟩ := written'
  constructor
  · rintro (@⟨_, _, same⟩)
    have members {u : CpuSet} {items : List Node}
        (listed : ∀ item, item ∈ items ↔ ∃ cpu ∈ u.cpus, ofCpu cpu = item) (cpu : UInt64) :
        cpu ∈ u.cpus ↔ ofCpu cpu ∈ items := by
      rw [listed, ← List.mem_map, List.mem_map_of_injective ofCpu_injective]
    exact eq_of_mem_iff fun cpu => by rw [members listed, members listed', same]
  · rintro rfl
    exact .items fun item => (listed item).trans (listed' item).symm

/-- A set is read from just the arrays that it is written as. -/
theorem read?_eq_some_iff : read? node = some s ↔ s.Written node := by
  rw [read?, Option.map_eq_some_iff]
  simp only [list?_uint64?_iff]
  constructor
  · rintro ⟨cpus, rfl, rfl⟩
    exact written_ofList cpus
  · intro written
    cases written.isCpu with
    | @items items each =>
      obtain ⟨cpus, rfl⟩ := exists_map_ofCpu.mpr each
      exact ⟨cpus, rfl, ((written_ofList cpus).eq_iff written).mp (.items fun _ => Iff.rfl)⟩

theorem isSome_read?_iff : (read? node).isSome = true ↔ node.ArrayOf IsCpu := by
  simp only [Option.isSome_iff_exists, read?_eq_some_iff]
  constructor
  · rintro ⟨s, written⟩
    exact written.isCpu
  · rintro (@⟨items, each⟩)
    obtain ⟨cpus, rfl⟩ := exists_map_ofCpu.mpr each
    exact ⟨ofList cpus, written_ofList cpus⟩

theorem read?_toJson (s : CpuSet) : read? (.ofJson s.toJson) = some s := by
  have written := written_ofList s.cpus
  rw [ofList_cpus] at written
  rw [read?_eq_some_iff, toJson, ofJson, ofItems_eq, List.map_map]
  exact written

end CpuSet

namespace PinMap

variable {p q : PinMap} {node other : Node} {text : String}

/-- The map has the sets that are listed where an application and a thread occur last. -/
def Written (p : PinMap) : Node → Prop := p.apps.Written (KeyMap.Written CpuSet.Written)

/-- A map as a text tells it. -/
structure ToldBy (p : PinMap) (text : String) : Prop where
  listed : ∃ fields, Node.ofText? text.toList = some (.obj fields) ∧ p.Written (.obj fields) ∧
    ∀ app, app ∈ p.appNames ↔ app ∈ fields.map (·.1)
  ordered : p.appNames.Pairwise (· < ·)
  named : ∀ app, p.hasApp app = true ↔ app ∈ p.appNames
  found : ∀ app thread cpus, p.lookup app thread = some cpus → p.hasApp app = true
  scalars : ∃ tokens, Tokens text.toList tokens ∧
    ∀ value, .scalar value ∈ tokens → (Node.ofScalar value).IsCpu
  /-- Another text tells the same map if it says the same where keys occur last. -/
  last : ∀ other q, ofText? other = some q → ∀ node node', Node.ofText? text.toList = some node →
    Node.ofText? other.toList = some node' → (SameLast (SameLast SameItems) node node' ↔ p = q)

theorem read?_eq_some_iff : read? node = some p ↔ p.Written node := by
  obtain ⟨apps⟩ := p
  rw [read?, Option.map_eq_some_iff]
  simp only [mk.injEq, exists_eq_right, KeyMap.read?_eq_some_iff, CpuSet.read?_eq_some_iff]
  rfl

theorem isSome_read?_iff : (read? node).isSome = true ↔ node.IsPins := by
  rw [read?, Option.isSome_map, KeyMap.isSome_read?_iff]
  simp only [KeyMap.isSome_read?_iff, CpuSet.isSome_read?_iff]
  rfl

theorem Written.eq_iff (written : p.Written node) (written' : q.Written other) :
    SameLast (SameLast SameItems) node other ↔ p = q := by
  have same : SameLast (SameLast SameItems) node other ↔ p.apps = q.apps :=
    KeyMap.Written.eq_iff (fun _ _ _ _ here there =>
      KeyMap.Written.eq_iff (fun _ _ _ _ => CpuSet.Written.eq_iff) here there) written written'
  obtain ⟨apps⟩ := p
  obtain ⟨others⟩ := q
  rw [same, mk.injEq]

theorem read?_toJson (p : PinMap) : read? (.ofJson p.toJson) = some p := by
  rw [read?, toJson, KeyMap.read?_toJson (KeyMap.read?_toJson CpuSet.read?_toJson)]
  rfl

theorem ofText?_eq_some_iff :
    ofText? text = some p ↔ ∃ node, Node.ofText? text.toList = some node ∧ p.Written node := by
  simp only [ofText?, Option.bind_eq_some_iff, read?_eq_some_iff]

theorem isSome_ofText?_iff :
    (ofText? text).isSome = true ↔ ∃ node, Node.ofText? text.toList = some node ∧ node.IsPins := by
  simp only [ofText?, Option.isSome_iff_exists, Option.bind_eq_some_iff, ← isSome_read?_iff]
  rw [exists_comm]
  simp only [exists_and_left]

/-- The tokens of a text that is read show no scalars but CPUs. -/
theorem isCpu_of_mem_tokens (accepted : ofText? text = some p) {ts : List Token}
    (tokens : Tokens text.toList ts) {value : Scalar} (member : .scalar value ∈ ts) :
    (Node.ofScalar value).IsCpu := by
  obtain ⟨node, tree, pins⟩ := isSome_ofText?_iff.mp (Option.isSome_of_eq_some accepted)
  by_contra foreign
  exact pins.not_has (has_of_ofText? ⟨⟨.unreadable, rfl⟩, nofun⟩ tree tokens member
    ⟨⟨value, rfl⟩, foreign⟩)

theorem fits_toJson {P : Binary64 → Prop} (p : PinMap) : p.toJson.Fits P Node.maxDepth := by
  have sets (s : CpuSet) : s.toJson.Fits P 1 := .arr fun item member => by
    obtain ⟨cpu, _, rfl⟩ := List.mem_map.mp member
    exact fits_uint64 cpu
  have pins : p.toJson.Fits P 3 := KeyMap.fits_toJson (KeyMap.fits_toJson sets) p.apps
  exact pins.deeper (by decide)

/-- A map is read back from its text, however it is laid out. -/
theorem ofText?_pretty (p : PinMap) (indent : Nat) :
    ofText? (String.ofList (p.toJson.pretty indent 0)) = some p := by
  rw [ofText?, String.toList_ofList, Json.ofText?_pretty p.fits_toJson, p.fits_toJson.reread_eq,
    Option.bind_some, read?_toJson]

theorem ofText?_text (p : PinMap) : ofText? p.text = some p := by
  rw [← p.ofText?_pretty 0, ofText?, ofText?, text, String.toList_ofList, String.toList_ofList,
    ofText?_compact p.fits_toJson 0]

theorem isCpu_ofScalar_iff {value : Scalar} :
    (Node.ofScalar value).IsCpu ↔ ∃ n : Nat, n < UInt64.size ∧ value = .int n := by
  constructor
  · intro cpu
    cases value with
    | int m =>
      cases cpu with
      | @number n small => exact ⟨n, small, rfl⟩
    | _ => exact nomatch cpu
  · rintro ⟨n, small, rfl⟩
    exact .number small

theorem hasApp_of_lookup {app thread : String} {cpus : CpuSet}
    (found : p.lookup app thread = some cpus) : p.hasApp app = true := by
  obtain ⟨threads, listed, _⟩ := Option.bind_eq_some_iff.mp found
  rw [hasApp, KeyMap.contains, listed, Option.isSome_some]

theorem toldBy_of_ofText? (accepted : ofText? text = some p) : p.ToldBy text where
  listed := by
    obtain ⟨node, tree, written⟩ := ofText?_eq_some_iff.mp accepted
    obtain @⟨fields, readable, last⟩ := written
    have written : p.Written (.obj fields) := .object readable last
    exact ⟨fields, tree, written, fun app => KeyMap.Written.mem_keys_iff written⟩
  ordered := List.pairwise_map.mpr p.apps.ordered
  named app := mem_appNames_iff.symm
  found app thread cpus := hasApp_of_lookup
  scalars := by
    obtain ⟨node, tree, _⟩ := ofText?_eq_some_iff.mp accepted
    obtain ⟨tokens, shown⟩ := exists_tokens tree
    exact ⟨tokens, shown, fun _ => isCpu_of_mem_tokens accepted shown⟩
  last other q accepted' here there reads reads' := by
    obtain ⟨node, tree, written⟩ := ofText?_eq_some_iff.mp accepted
    obtain ⟨node', tree', written'⟩ := ofText?_eq_some_iff.mp accepted'
    obtain rfl := Option.some.inj (tree.symm.trans reads)
    obtain rfl := Option.some.inj (tree'.symm.trans reads')
    exact written.eq_iff written'

/-- Any map is read back from its text. A text is read as the map that it tells, and it is read if
it consists of arrays of CPUs under threads under applications. A number that is not one of 64 bits
in digits alone is no CPU, and no text is read in which it stands. -/
theorem ofText?_exact :
    (∀ p : PinMap, ofText? p.text = some p ∧
      ∀ indent, ofText? (String.ofList (p.toJson.pretty indent 0)) = some p) ∧
    (∀ text p, ofText? text = some p ↔ p.ToldBy text) ∧
    (∀ text, (ofText? text).isSome = true ↔
      ∃ node, Node.ofText? text.toList = some node ∧ node.IsPins) ∧
    (∀ text tokens value, Tokens text.toList tokens → .scalar value ∈ tokens →
      ¬ (Node.ofScalar value).IsCpu → ofText? text = none) ∧
    ∀ cs value, number? cs = some value → ((Node.ofScalar value).IsCpu ↔
      (∀ c ∈ cs, c.isDigit = true) ∧ Decimal.natOfDigits cs < UInt64.size) := by
  refine ⟨fun p => ⟨p.ofText?_text, p.ofText?_pretty⟩, fun text p => ⟨toldBy_of_ofText?, ?_⟩,
    fun text => isSome_ofText?_iff, ?_,
    fun cs value read => isCpu_ofScalar_iff.trans (number?_natural_iff read)⟩
  · intro told
    obtain ⟨fields, tree, written, _⟩ := told.listed
    exact ofText?_eq_some_iff.mpr ⟨.obj fields, tree, written⟩
  · intro text tokens value shown member foreign
    cases accepted : ofText? text with
    | none => rfl
    | some p => exact absurd (isCpu_of_mem_tokens accepted shown member) foreign

/-- Repeated keys on both levels, and repeated numbers where they occur last. -/
def crowdedText : String :=
  "\x7b\"a\":\x7b\"x\":[9]\x7d,\"b\":\x7b\x7d,\"a\":\x7b\"x\":[5],\"\\u0078\":[1,0,1]\x7d\x7d"

def crowded : Node :=
  .obj [("a", .obj [("x", .arr [.int 9])]), ("b", .obj []),
    ("a", .obj [("x", .arr [.int 5]), ("x", .arr [.int 1, .int 0, .int 1])])]

def plainText : String := "\x7b\"a\":\x7b\"x\":[0,1]\x7d,\"b\":\x7b\x7d\x7d"

def plain : Node := .obj [("a", .obj [("x", .arr [.int 0, .int 1])]), ("b", .obj [])]

def pair : PinMap := ⟨.ofList [("a", .ofList [("x", .ofList [0, 1])]), ("b", .ofList [])]⟩

/-- A CPU below zero. -/
def negativeText : String := "\x7b\"a\":\x7b\"x\":[-1]\x7d\x7d"

set_option maxRecDepth 10000 in
theorem ofText?_exact_crowded :
    ofText? crowdedText = some pair ∧ pair.lookup "a" "x" = some (.ofList [0, 1]) ∧
      pair.hasApp "a" = true ∧ pair.appNames.Pairwise (· < ·) ∧
      SameLast (SameLast SameItems) crowded plain ∧ ofText? negativeText = none ∧
      ∀ numeral ∈ ["-1", "1.0", "18446744073709551616"], ∃ value,
        number? numeral.toList = some value ∧ ¬ (Node.ofScalar value).IsCpu := by
  obtain ⟨_, tells, _, rejects, numerals⟩ := ofText?_exact
  -- The reader goes on with the text that a token leaves, so a whole text is read by unfolding all.
  have tree : Node.ofText? crowdedText.toList = some crowded := by with_unfolding_all rfl
  have tree' : Node.ofText? plainText.toList = some plain := by with_unfolding_all rfl
  have accepted : ofText? crowdedText = some pair := by
    rw [ofText?, tree]
    rfl
  have accepted' : ofText? plainText = some pair := by
    rw [ofText?, tree']
    rfl
  have found : pair.lookup "a" "x" = some (.ofList [0, 1]) := by decide +kernel
  have told := (tells crowdedText pair).mp accepted
  have reads : ∀ numeral ∈ ["-1", "1.0", "18446744073709551616"],
      (number? numeral.toList).isSome = true := by decide +kernel
  have refused : ∀ numeral ∈ ["-1", "1.0", "18446744073709551616"],
      (numeral.toList.all Char.isDigit &&
        decide (Decimal.natOfDigits numeral.toList < UInt64.size)) = false := by decide +kernel
  have foreign : ∀ numeral ∈ ["-1", "1.0", "18446744073709551616"], ∃ value,
      number? numeral.toList = some value ∧ ¬ (Node.ofScalar value).IsCpu := by
    intro numeral member
    obtain ⟨value, read⟩ := Option.isSome_iff_exists.mp (reads numeral member)
    refine ⟨value, read, fun cpu => ?_⟩
    obtain ⟨digits, small⟩ := (numerals _ value read).mp cpu
    have fails := refused numeral member
    rw [List.all_eq_true.mpr digits, decide_eq_true small] at fails
    exact absurd fails (by decide)
  have tokens : Tokens negativeText.toList [.openObj, .text "a", .colon, .openObj, .text "x",
      .colon, .openArr, .scalar (.int (-1)), .closeArr, .closeObj, .closeObj] :=
    .cons rfl rfl <| .cons rfl rfl <| .cons rfl rfl <| .cons rfl rfl <| .cons rfl rfl <|
      .cons rfl rfl <| .cons rfl rfl <| .cons rfl rfl <| .cons rfl rfl <| .cons rfl rfl <|
      .cons rfl rfl <| .nil rfl
  refine ⟨accepted, found, told.found _ _ _ found, told.ordered,
    (told.last plainText pair accepted' _ _ tree tree').mpr rfl, ?_, foreign⟩
  refine rejects negativeText _ (.int (-1)) tokens (by simp) ?_
  intro cpu
  cases cpu

end PinMap

end ReadoutControl
