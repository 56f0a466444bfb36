set_option autoImplicit false

/-!
Sets of CPU numbers in increasing order.
-/

namespace ReadoutControl

structure CpuSet where
  cpus : List UInt64
  ordered : cpus.Pairwise (· < ·)
  deriving DecidableEq

namespace CpuSet

def insertCpu (cpu : UInt64) : List UInt64 → List UInt64
  | [] => [cpu]
  | c :: rest =>
    if cpu < c then cpu :: c :: rest
    else if cpu = c then c :: rest
    else c :: insertCpu cpu rest

theorem mem_insertCpu {cpu : UInt64} {cpus : List UInt64} {c : UInt64} :
    c ∈ insertCpu cpu cpus ↔ c = cpu ∨ c ∈ cpus := by
  induction cpus with
  | nil => simp [insertCpu]
  | cons head rest ih =>
    simp only [insertCpu]
    split
    · simp
    · split
      · next same => simp [same]
      · simp only [List.mem_cons, ih]
        exact or_left_comm

theorem ordered_insertCpu (cpu : UInt64) {cpus : List UInt64} (h : cpus.Pairwise (· < ·)) :
    (insertCpu cpu cpus).Pairwise (· < ·) := by
  induction cpus with
  | nil => simp [insertCpu]
  | cons head rest ih =>
    have ⟨first, later⟩ := List.pairwise_cons.mp h
    simp only [insertCpu]
    split
    · next lower =>
      refine List.pairwise_cons.mpr ⟨fun c hc => ?_, h⟩
      rcases List.mem_cons.mp hc with rfl | hc
      · exact lower
      · exact UInt64.lt_trans lower (first c hc)
    · split
      · exact h
      · next notLower notSame =>
        refine List.pairwise_cons.mpr ⟨fun c hc => ?_, ih later⟩
        rcases mem_insertCpu.mp hc with rfl | hc
        · exact UInt64.lt_of_le_of_ne (UInt64.not_lt.mp notLower) (Ne.symm notSame)
        · exact first c hc

theorem ordered_foldr (cpus : List UInt64) : (cpus.foldr insertCpu []).Pairwise (· < ·) := by
  induction cpus with
  | nil => exact .nil
  | cons cpu rest ih => exact ordered_insertCpu cpu ih

/-- The set of the numbers in a list. -/
def ofList (cpus : List UInt64) : CpuSet := ⟨cpus.foldr insertCpu [], ordered_foldr cpus⟩

def isEmpty (s : CpuSet) : Bool := s.cpus.isEmpty

/-- The least CPU that is not below a limit. -/
def beyond? (s : CpuSet) (limit : Nat) : Option UInt64 :=
  s.cpus.find? fun cpu => limit ≤ cpu.toNat

/-- All CPUs below a limit. -/
def below (limit : Nat) : CpuSet := ofList ((List.range limit).map UInt64.ofNat)

/-- The numbers with a mark between them. -/
def joined (s : CpuSet) (mark : String) : String := mark.intercalate (s.cpus.map toString)

/-- The set as messages show it. -/
def text (s : CpuSet) : String :=
  String.ofList ('\x7b' :: (s.joined ", ").toList ++ ['\x7d'])

end CpuSet

end ReadoutControl
