import ReadoutControl.Balance.ThreadTable
import ReadoutControl.Proofs.Json.Fields

set_option autoImplicit false

/-!
Tables that keep what they are told. `Keeps` is what a pass relies on: a listing that setting does
not change, and settings that either fail without effect or take effect on one thread only. The table
held in memory is one of these, whatever faults its threads have.
-/

namespace ReadoutControl

namespace ProcessTable

variable {σ : Type}

/-- Processes and threads stay listed as they are, and setting the CPUs of a thread either fails and
changes nothing, or that thread holds these CPUs and all others what they held before. -/
structure Keeps (table : ProcessTable σ) (held : σ → UInt32 → Option CpuSet) : Prop where
  processes : ∀ s tid cpus, table.processes (table.setAffinity s tid cpus).2 = table.processes s
  threads : ∀ s tid cpus, table.threads (table.setAffinity s tid cpus).2 = table.threads s
  failed : ∀ s tid cpus e, (table.setAffinity s tid cpus).1 = .error e →
    held (table.setAffinity s tid cpus).2 = held s
  applied : ∀ s tid cpus, (table.setAffinity s tid cpus).1 = .ok () → ∀ other,
    held (table.setAffinity s tid cpus).2 other = if other = tid then some cpus else held s other

end ProcessTable

namespace ThreadTable

theorem lookup_put {α : Type} (key other : UInt32) (value : α) (entries : List (UInt32 × α)) :
    (put key value entries).lookup other =
      if other = key then some value else entries.lookup other := by
  induction entries with
  | nil => simp [put, Json.lookup_cons]
  | cons entry rest ih =>
    obtain ⟨k, v⟩ := entry
    simp only [put]
    split
    · next same =>
      subst same
      by_cases here : other = k <;> simp [Json.lookup_cons, here]
    · next different =>
      by_cases here : other = k
      · subst here
        simp [different]
      · simp [Json.lookup_cons, here, ih]

/-- Setting the CPUs of a thread fails without effect or stores them. -/
theorem setAffinity_cases (t : ThreadTable) (tid : UInt32) (cpus : CpuSet) :
    (∃ e, t.setAffinity tid cpus = (.error e, t)) ∨
      t.setAffinity tid cpus = (.ok (), { t with affinities := put tid cpus t.affinities }) := by
  unfold setAffinity
  split
  · exact .inl ⟨_, rfl⟩
  · split
    · exact .inl ⟨_, rfl⟩
    · exact .inr rfl

theorem access_keeps : access.Keeps fun t tid => t.affinities.lookup tid where
  processes t tid cpus := by
    rcases t.setAffinity_cases tid cpus with ⟨e, outcome⟩ | outcome <;>
      simp only [access, outcome]
  threads t tid cpus := by
    rcases t.setAffinity_cases tid cpus with ⟨e, outcome⟩ | outcome
    · simp only [access, outcome]
    · simp only [access, outcome]
      rfl
  failed t tid cpus e refused := by
    rcases t.setAffinity_cases tid cpus with ⟨_, outcome⟩ | outcome
    · simp only [access, outcome]
    · simp only [access, outcome] at refused
      exact nomatch refused
  applied t tid cpus accepted other := by
    rcases t.setAffinity_cases tid cpus with ⟨_, outcome⟩ | outcome
    · simp only [access, outcome] at accepted
      exact nomatch accepted
    · simp only [access, outcome]
      exact lookup_put tid other cpus t.affinities

end ThreadTable

end ReadoutControl
