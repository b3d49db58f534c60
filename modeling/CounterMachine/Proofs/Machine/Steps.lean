import CounterMachine.Machine.Run
import Mathlib.Logic.Function.Iterate

/-!
# Steps one after the other

`Machine.Advances` says once what a step of a running machine can do, with a case
for each instruction and each branch; whatever a step keeps is shown by its cases.
`Machine.next` is a machine after a call of `step`, which leaves a machine as it
is when the call is refused, and `next^[k]` is the machine after `k` calls.

Every run is such a row of calls, see `machine_runFor`, and so is every way to a
machine by steps, runs and resets, see `reaches_start_iff`.
-/

namespace CounterMachine

namespace Machine

/-- What a step makes of a running machine. -/
inductive Advances (m : Machine) : Machine → Prop where
  | undefined (h : m.current? = none) :
      Advances m { m with status := .halted .erroneous, steps := m.steps + 1 }
  | halt (h : m.current? = some .halt) :
      Advances m { m with status := .halted .proper, steps := m.steps + 1 }
  | increment {r : Nat} {next : Label} (h : m.current? = some (.increment r next))
      (hr : r ≤ Registers.highest) :
      Advances m { m with
        label := next, registers := m.registers.modify r (· + 1), steps := m.steps + 1 }
  | decrementZero {r : Nat} {nonzero zero : Label}
      (h : m.current? = some (.decrement r nonzero zero)) (hr : r ≤ Registers.highest)
      (hz : m.registers.get r = 0) :
      Advances m { m with
        label := zero, registers := m.registers.growTo (r + 1), steps := m.steps + 1 }
  | decrementNonzero {r : Nat} {nonzero zero : Label}
      (h : m.current? = some (.decrement r nonzero zero)) (hr : r ≤ Registers.highest)
      (hz : m.registers.get r ≠ 0) :
      Advances m { m with
        label := nonzero, registers := m.registers.modify r (· - 1), steps := m.steps + 1 }

theorem advance_of_advances {m m' : Machine} (h : Advances m m') : m.advance = .ok m' := by
  cases h with
  | undefined h => exact advance_undefined h
  | halt h => exact advance_halt h
  | increment h hr => exact advance_increment h hr
  | decrementZero h hr hz => exact advance_decrement_zero h hr hz
  | decrementNonzero h hr hz => exact advance_decrement_nonzero h hr hz

theorem exists_advances {m : Machine}
    (h : ∀ i, m.current? = some i → ∀ r, i.register? = some r → r ≤ Registers.highest) :
    ∃ m', Advances m m' := by
  cases hc : m.current? with
  | none => exact ⟨_, .undefined hc⟩
  | some i =>
      cases i with
      | halt => exact ⟨_, .halt hc⟩
      | increment r next => exact ⟨_, .increment hc (h _ hc r rfl)⟩
      | decrement r nonzero zero =>
          by_cases hz : m.registers.get r = 0
          · exact ⟨_, .decrementZero hc (h _ hc r rfl) hz⟩
          · exact ⟨_, .decrementNonzero hc (h _ hc r rfl) hz⟩

theorem advance_eq_ok_iff {m m' : Machine} : m.advance = .ok m' ↔ Advances m m' := by
  constructor
  · intro h
    have hr : ∀ i, m.current? = some i → ∀ r, i.register? = some r → r ≤ Registers.highest := by
      intro i hi r hr
      by_contra hlt
      have herror : m.advance = .error (.registerTooHigh r) :=
        advance_eq_error_iff.2 ⟨r, by rw [hi, Option.bind_some, hr], Nat.lt_of_not_le hlt, rfl⟩
      rw [herror] at h
      cases h
    obtain ⟨m'', hm⟩ := exists_advances hr
    have heq := advance_of_advances hm
    rw [h, Except.ok.injEq] at heq
    rwa [heq]
  · exact advance_of_advances

theorem exists_advance_eq_ok {m : Machine}
    (h : m.program.EachRegister (· ≤ Registers.highest)) : ∃ m', m.advance = .ok m' := by
  obtain ⟨m', hm⟩ := exists_advances (m := m) fun i hi => h m.label i hi
  exact ⟨m', advance_of_advances hm⟩

theorem Advances.reset_eq {m m' : Machine} (h : Advances m m') : m'.reset = m.reset := by
  cases h <;> rfl

theorem Advances.program_eq {m m' : Machine} (h : Advances m m') : m'.program = m.program := by
  cases h <;> rfl

theorem step_eq_ok_iff {m m' : Machine} {event : Snapshot} :
    m.step = .ok (event, m') ↔ m.status = .running ∧ event = m.snapshot ∧ m.advance = .ok m' := by
  constructor
  · intro h
    by_cases hs : m.status = .running
    · cases ha : m.advance with
      | ok m'' =>
          rw [step_of_advance_ok hs ha] at h
          cases h
          exact ⟨hs, rfl, rfl⟩
      | error f =>
          rw [step_of_advance_error hs ha] at h
          cases h
    · rw [step_of_not_running hs] at h
      cases h
  · rintro ⟨hs, rfl, ha⟩
    exact step_of_advance_ok hs ha

/-! ## Calls of a step -/

/-- The machine after a call of `step`; a call that is refused leaves it alone. -/
def next (m : Machine) : Machine :=
  match m.step with
  | .ok (_, m') => m'
  | .error _ => m

theorem next_of_not_running {m : Machine} (h : m.status ≠ .running) : m.next = m := by
  rw [next, step_of_not_running h]

theorem next_of_advance_ok {m m' : Machine} (h : m.status = .running)
    (ha : m.advance = .ok m') : m.next = m' := by
  rw [next, step_of_advance_ok h ha]

theorem next_of_advance_error {m : Machine} {f : Fault} (h : m.status = .running)
    (ha : m.advance = .error f) : m.next = m := by
  rw [next, step_of_advance_error h ha]

theorem next_eq_or (m : Machine) : m.next = m ∨ m.status = .running ∧ Advances m m.next := by
  by_cases hs : m.status = .running
  · cases ha : m.advance with
    | ok m' =>
        rw [next_of_advance_ok hs ha]
        exact Or.inr ⟨hs, advance_eq_ok_iff.1 ha⟩
    | error f => exact Or.inl (next_of_advance_error hs ha)
  · exact Or.inl (next_of_not_running hs)

theorem reset_next (m : Machine) : m.next.reset = m.reset := by
  rcases next_eq_or m with h | ⟨-, h⟩
  · rw [h]
  · exact h.reset_eq

theorem program_next (m : Machine) : m.next.program = m.program := by
  rcases next_eq_or m with h | ⟨-, h⟩
  · rw [h]
  · exact h.program_eq

theorem steps_next_le (m : Machine) : m.next.steps ≤ m.steps + 1 := by
  rcases next_eq_or m with h | ⟨-, h⟩
  · rw [h]
    exact Nat.le_succ _
  · exact Nat.le_of_eq (steps_of_advance (advance_of_advances h))

theorem iterate_next_keeps {α : Type} {f : Machine → α} (h : ∀ m : Machine, f m.next = f m)
    (m : Machine) (k : Nat) : f (next^[k] m) = f m := by
  induction k with
  | zero => rfl
  | succ k ih => rw [Function.iterate_succ_apply', h, ih]

theorem reset_iterate_next (m : Machine) (k : Nat) : (next^[k] m).reset = m.reset :=
  iterate_next_keeps reset_next m k

theorem program_iterate_next (m : Machine) (k : Nat) : (next^[k] m).program = m.program :=
  iterate_next_keeps program_next m k

theorem steps_iterate_next_le (m : Machine) (k : Nat) : (next^[k] m).steps ≤ m.steps + k := by
  induction k with
  | zero => exact Nat.le_refl _
  | succ k ih =>
      rw [Function.iterate_succ_apply']
      have h := steps_next_le (next^[k] m)
      omega

theorem steps_le_next (m : Machine) : m.steps ≤ m.next.steps := by
  rcases next_eq_or m with h | ⟨-, h⟩
  · exact Nat.le_of_eq (congrArg steps h.symm)
  · have := steps_of_advance (advance_of_advances h)
    omega

theorem steps_le_iterate_next (m : Machine) (k : Nat) : m.steps ≤ (next^[k] m).steps := by
  induction k with
  | zero => exact Nat.le_refl _
  | succ k ih =>
      rw [Function.iterate_succ_apply']
      exact Nat.le_trans ih (steps_le_next _)

theorem iterate_next_of_not_running {m : Machine} {k n : Nat}
    (h : (next^[k] m).status ≠ .running) (hk : k ≤ n) : next^[n] m = next^[k] m := by
  obtain ⟨d, rfl⟩ := Nat.exists_eq_add_of_le hk
  rw [Nat.add_comm, Function.iterate_add_apply, Function.iterate_fixed (next_of_not_running h)]

theorem iterate_next_of_advance_ok {m₀ m m' : Machine} (h : m = next^[m.steps] m₀)
    (hs : m.status = .running) (ha : m.advance = .ok m') : m' = next^[m'.steps] m₀ := by
  calc
    m' = m.next := (next_of_advance_ok hs ha).symm
    _ = (next^[m.steps] m₀).next := congrArg next h
    _ = next^[m.steps + 1] m₀ := (Function.iterate_succ_apply' next m.steps m₀).symm
    _ = next^[m'.steps] m₀ := by rw [steps_of_advance ha]

theorem machine_runFor {σ : Type} (observe : σ → Snapshot → σ) (n : Nat) (seen : σ)
    (m : Machine) : (runFor observe n seen m).machine = next^[n] m := by
  induction n generalizing seen m with
  | zero => rfl
  | succ n ih =>
      by_cases hs : m.status = .running
      · cases ha : m.advance with
        | ok m' =>
            rw [runFor_of_advance_ok observe n seen hs ha, ih, Function.iterate_succ_apply,
              next_of_advance_ok hs ha]
        | error f =>
            rw [runFor_of_advance_error observe n seen hs ha]
            exact (Function.iterate_fixed (next_of_advance_error hs ha) (n + 1)).symm
      · rw [runFor_of_not_running observe (n + 1) seen hs]
        exact (Function.iterate_fixed (next_of_not_running hs) (n + 1)).symm

theorem machine_runLimited {σ : Type} (observe : σ → Snapshot → σ) (budget : Nat) (seen : σ)
    (m : Machine) : (m.runLimited budget observe seen).machine
      = next^[min (m.steps + budget) stepLimit - m.steps] m := by
  by_cases hs : m.status = .running
  · rw [runLimited_of_running hs, Run.machine_returning, machine_runFor]
  · rw [runLimited_of_not_running hs, Function.iterate_fixed (next_of_not_running hs)]

/-! ## Rows of steps -/

/-- The next `k` calls of `step` each take a step. -/
def Takes (m : Machine) (k : Nat) : Prop :=
  ∀ i < k, (next^[i] m).step = .ok ((next^[i] m).snapshot, next^[i + 1] m)

theorem takes_succ {m : Machine} {k : Nat} :
    m.Takes (k + 1) ↔ m.step = .ok (m.snapshot, m.next) ∧ m.next.Takes k := by
  constructor
  · intro h
    exact ⟨h 0 (Nat.succ_pos k), fun i hi => h (i + 1) (Nat.succ_lt_succ hi)⟩
  · rintro ⟨hstep, h⟩ i hi
    cases i with
    | zero => exact hstep
    | succ i => exact h i (Nat.lt_of_succ_lt_succ hi)

theorem Takes.steps_eq {m : Machine} {k : Nat} (h : m.Takes k) {i : Nat} (hi : i ≤ k) :
    (next^[i] m).steps = m.steps + i := by
  induction i with
  | zero => rfl
  | succ i ih =>
      have hstep := steps_of_advance (step_eq_ok_iff.1 (h i hi)).2.2
      have hbefore := ih (Nat.le_of_succ_le hi)
      omega

theorem Takes.running {m : Machine} {k : Nat} (h : m.Takes k) {i : Nat} (hi : i < k) :
    (next^[i] m).status = .running :=
  (step_eq_ok_iff.1 (h i hi)).1

theorem takes_of_running {m : Machine} (hm : m.program.EachRegister (· ≤ Registers.highest))
    {k : Nat} (h : ∀ i < k, (next^[i] m).status = .running) : m.Takes k := by
  intro i hi
  obtain ⟨m', ha⟩ := exists_advance_eq_ok (program_iterate_next m i ▸ hm)
  rw [Function.iterate_succ_apply', next_of_advance_ok (h i hi) ha]
  exact step_of_advance_ok (h i hi) ha

/-! ## Reachable machines -/

/-- The machines that steps, runs with a budget and resets lead to. -/
inductive Reaches (m₀ : Machine) : Machine → Prop
  | refl : Reaches m₀ m₀
  | step {m m' : Machine} {seen : Snapshot} (h : Reaches m₀ m)
      (hs : m.step = .ok (seen, m')) : Reaches m₀ m'
  | runLimited {σ : Type} {m : Machine} {budget : Nat} {observe : σ → Snapshot → σ} {seen : σ}
      (h : Reaches m₀ m) : Reaches m₀ (m.runLimited budget observe seen).machine
  | reset {m : Machine} (h : Reaches m₀ m) : Reaches m₀ m.reset

theorem Reaches.next {m₀ m : Machine} (h : Reaches m₀ m) : Reaches m₀ m.next := by
  unfold Machine.next
  split
  · next hs => exact h.step hs
  · exact h

theorem reaches_iterate_next (m : Machine) (k : Nat) : Reaches m (Machine.next^[k] m) :=
  Function.Iterate.rec (Reaches m) .refl (fun _ h => h.next) k

/-- From the start the reachable machines are those after some calls of `step`. -/
theorem reaches_start_iff {p : Program} {l : Label} {rs : Registers} {m : Machine} :
    Reaches (start p l rs) m ↔ ∃ k, m = Machine.next^[k] (start p l rs) := by
  constructor
  · intro h
    induction h with
    | refl => exact ⟨0, rfl⟩
    | @step m m' seen _ hs ih =>
        obtain ⟨k, rfl⟩ := ih
        refine ⟨k + 1, ?_⟩
        rw [Function.iterate_succ_apply', Machine.next, hs]
    | @runLimited σ m budget observe seen _ ih =>
        obtain ⟨k, rfl⟩ := ih
        rw [machine_runLimited, ← Function.iterate_add_apply]
        exact ⟨_, rfl⟩
    | reset _ ih =>
        obtain ⟨k, rfl⟩ := ih
        refine ⟨0, ?_⟩
        rw [reset_iterate_next]
        rfl
  · rintro ⟨k, rfl⟩
    exact reaches_iterate_next _ k

end Machine

end CounterMachine
