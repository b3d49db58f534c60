import CounterMachine.Proofs.Machine.Runs

/-!
# Runs that break off

A saved program may name a register that is too high, and a machine that runs it breaks
off at the instruction that does.  `Machine.BreaksOff m k r` says that this happens after
`k` steps, and `Machine.Leaves` what a run leaves then.

* `step_eq_fault_iff`: such an instruction is the only thing that breaks off a step;
* `runFor_eq_fault_iff`: a run breaks off at the first one within its budget, with the
  steps before it taken and told of.
-/

namespace CounterMachine

variable {σ : Type}

namespace Machine

def NamesTooHigh (m : Machine) (r : Nat) : Prop :=
  ∃ i, m.current? = some i ∧ i.register? = some r ∧ Registers.highest < r

/-- After `k` steps the machine runs and is at an instruction that names a register that
is too high. -/
structure BreaksOff (m : Machine) (k r : Nat) : Prop where
  takes : m.Takes k
  running : (next^[k] m).status = .running
  tooHigh : (next^[k] m).NamesTooHigh r

/-- A run that an instruction breaks off after `k` steps leaves what those steps have made
of the machine and the observer. -/
def Leaves (m : Machine) (observe : σ → Snapshot → σ) (seen : σ) (k : Nat) (f : Fault)
    (s : σ × Machine) : Prop :=
  ∃ r, m.BreaksOff k r ∧ f = .registerTooHigh r
    ∧ s = ((trace k m).foldl observe seen, next^[k] m)

variable {m : Machine} {k r : Nat}

theorem breaksOff_zero : m.BreaksOff 0 r ↔ m.status = .running ∧ m.NamesTooHigh r := by
  constructor
  · intro h
    exact ⟨h.running, h.tooHigh⟩
  · rintro ⟨hs, hr⟩
    exact ⟨fun i hi => absurd hi (Nat.not_lt_zero i), hs, hr⟩

theorem breaksOff_succ :
    m.BreaksOff (k + 1) r ↔ m.step = .ok (m.snapshot, m.next) ∧ m.next.BreaksOff k r := by
  constructor
  · intro h
    obtain ⟨hstep, htakes⟩ := takes_succ.1 h.takes
    exact ⟨hstep, htakes, h.running, h.tooHigh⟩
  · rintro ⟨hstep, h⟩
    exact ⟨takes_succ.2 ⟨hstep, h.takes⟩, h.running, h.tooHigh⟩

theorem step_eq_fault_iff {f : Fault} :
    m.step = .error (.fault f) ↔ ∃ r, m.BreaksOff 0 r ∧ f = .registerTooHigh r := by
  have hstep : m.step = .error (.fault f) ↔ m.status = .running ∧ m.advance = .error f := by
    by_cases hs : m.status = .running
    · cases ha : m.advance with
      | error f' => simp [step_of_advance_error hs ha, hs]
      | ok m' => simp [step_of_advance_ok hs ha]
    · simp [step_of_not_running hs, hs]
  rw [hstep, advance_eq_error_iff]
  constructor
  · rintro ⟨hs, r, hr, hgt, rfl⟩
    obtain ⟨i, hi, hir⟩ := Option.bind_eq_some_iff.1 hr
    exact ⟨r, breaksOff_zero.2 ⟨hs, i, hi, hir, hgt⟩, rfl⟩
  · rintro ⟨r, h, rfl⟩
    obtain ⟨hs, i, hi, hir, hgt⟩ := breaksOff_zero.1 h
    exact ⟨hs, r, Option.bind_eq_some_iff.2 ⟨i, hi, hir⟩, hgt, rfl⟩

theorem BreaksOff.step_eq (h : m.BreaksOff k r) :
    (next^[k] m).step = .error (.fault (.registerTooHigh r)) :=
  step_eq_fault_iff.2 ⟨r, breaksOff_zero.2 ⟨h.running, h.tooHigh⟩, rfl⟩

section Leaves

variable {observe : σ → Snapshot → σ} {seen : σ} {f : Fault} {s : σ × Machine}

theorem Leaves.running (h : m.Leaves observe seen k f s) {i : Nat} (hi : i ≤ k) :
    (next^[i] m).status = .running := by
  obtain ⟨r, h, -⟩ := h
  rcases Nat.lt_or_eq_of_le hi with hlt | rfl
  · exact h.takes.running hlt
  · exact h.running

theorem Leaves.steps_iterate_next (h : m.Leaves observe seen k f s) {i : Nat} (hi : i ≤ k) :
    (next^[i] m).steps = m.steps + i := by
  obtain ⟨r, h, -⟩ := h
  exact h.takes.steps_eq hi

theorem Leaves.steps_eq (h : m.Leaves observe seen k f s) : s.2.steps = m.steps + k := by
  obtain ⟨r, h, -, rfl⟩ := h
  exact h.takes.steps_eq (Nat.le_refl k)

theorem leaves_zero :
    m.Leaves observe seen 0 f s ↔ m.step = .error (.fault f) ∧ s = (seen, m) := by
  rw [step_eq_fault_iff]
  constructor
  · rintro ⟨r, h, hf, hs⟩
    exact ⟨⟨r, h, hf⟩, hs⟩
  · rintro ⟨⟨r, h, hf⟩, hs⟩
    exact ⟨r, h, hf, hs⟩

theorem leaves_succ :
    m.Leaves observe seen (k + 1) f s ↔ m.step = .ok (m.snapshot, m.next)
      ∧ m.next.Leaves observe (observe seen m.snapshot) k f s := by
  constructor
  · rintro ⟨r, h, hf, hs⟩
    obtain ⟨hstep, hrest⟩ := breaksOff_succ.1 h
    exact ⟨hstep, r, hrest, hf, hs⟩
  · rintro ⟨hstep, r, h, hf, hs⟩
    exact ⟨r, breaksOff_succ.2 ⟨hstep, h⟩, hf, hs⟩

theorem exists_lt_succ_leaves {n : Nat} :
    (∃ k < n + 1, m.Leaves observe seen k f s) ↔
      m.Leaves observe seen 0 f s ∨ ∃ k < n, m.Leaves observe seen (k + 1) f s := by
  constructor
  · rintro ⟨k, hk, h⟩
    cases k with
    | zero => exact Or.inl h
    | succ k => exact Or.inr ⟨k, Nat.lt_of_succ_lt_succ hk, h⟩
  · rintro (h | ⟨k, hk, h⟩)
    · exact ⟨0, Nat.succ_pos n, h⟩
    · exact ⟨k + 1, Nat.succ_lt_succ hk, h⟩

theorem returning_eq_fault_iff {α : Type} {r : Run σ Unit} {value : Machine → Except StepError α}
    (hvalue : ∀ m, value m ≠ .error (.fault f)) :
    r.returning value = ⟨s.1, s.2, .error (.fault f)⟩ ↔ r = ⟨s.1, s.2, .error (.fault f)⟩ := by
  obtain ⟨seen, m, result⟩ := r
  cases result with
  | error e => simp [Run.returning, Except.bind]
  | ok u => simp [Run.returning, Except.bind, hvalue m]

theorem runFor_eq_fault_iff {n : Nat} :
    runFor observe n seen m = ⟨s.1, s.2, .error (.fault f)⟩
      ↔ ∃ k < n, m.Leaves observe seen k f s := by
  induction n generalizing m seen with
  | zero => simp
  | succ n ih =>
      rw [exists_lt_succ_leaves, leaves_zero]
      simp only [leaves_succ]
      by_cases hs : m.status = .running
      · cases ha : m.advance with
        | ok m' =>
            rw [runFor_of_advance_ok observe n seen hs ha, ih, step_of_advance_ok hs ha,
              next_of_advance_ok hs ha]
            simp
        | error f' =>
            rw [runFor_of_advance_error observe n seen hs ha, step_of_advance_error hs ha]
            grind
      · rw [runFor_of_not_running observe _ seen hs, step_of_not_running hs]
        simp

theorem run_eq_fault_iff (hs : s.2.steps < stepLimit) :
    m.run observe seen = ⟨s.1, s.2, .error (.fault f)⟩ ↔ ∃ k, m.Leaves observe seen k f s := by
  have hrun : m.run observe seen = ⟨s.1, s.2, .error (.fault f)⟩
      ↔ runFor observe (stepLimit - m.steps) seen m = ⟨s.1, s.2, .error (.fault f)⟩ := by
    refine returning_eq_fault_iff fun m => ?_
    split <;> simp
  rw [hrun, runFor_eq_fault_iff]
  constructor
  · rintro ⟨k, -, h⟩
    exact ⟨k, h⟩
  · rintro ⟨k, h⟩
    have hsteps := h.steps_eq
    exact ⟨k, by omega, h⟩

theorem runLimited_eq_fault_iff {budget : Nat} (hs : s.2.steps < stepLimit) :
    m.runLimited budget observe seen = ⟨s.1, s.2, .error (.fault f)⟩ ↔
      ∃ k < budget, m.Leaves observe seen k f s := by
  by_cases hm : m.status = .running
  · rw [runLimited_of_running hm, returning_eq_fault_iff fun m => by simp, runFor_eq_fault_iff]
    constructor
    · rintro ⟨k, hk, h⟩
      exact ⟨k, by omega, h⟩
    · rintro ⟨k, hk, h⟩
      have hsteps := h.steps_eq
      exact ⟨k, by omega, h⟩
  · rw [runLimited_of_not_running hm]
    constructor
    · intro h
      cases h
    · rintro ⟨k, -, h⟩
      exact absurd (h.running (Nat.zero_le k)) hm

end Leaves

end Machine

end CounterMachine
