import CounterMachine.Proofs.Machine.Steps

/-!
# Halting runs

`Machine.HaltsIn m k o` says that a machine halts with its `k`-th step from now
and has the outcome `o` then, and `Machine.trace k m` is what is seen before each
of the next `k` calls of `step`.

* `HaltsIn.advances`: up to the halt every call takes a step, so no fault stands
  between a machine and its halt;
* `execute_eq_ok_iff`: a program is executed to an outcome when its machine halts
  with that outcome before the step counter is full, and what was seen is the
  trace up to the halt.
-/

namespace CounterMachine

namespace Machine

/-- What is seen before each of the next `k` calls of `step`. -/
def trace : Nat → Machine → List Snapshot
  | 0, _ => []
  | k + 1, m => m.snapshot :: trace k m.next

@[simp] theorem length_trace (k : Nat) (m : Machine) : (trace k m).length = k := by
  induction k generalizing m with
  | zero => rfl
  | succ k ih => rw [trace, List.length_cons, ih]

theorem getElem?_trace_of_lt {k i : Nat} (h : i < k) (m : Machine) :
    (trace k m)[i]? = some (next^[i] m).snapshot := by
  induction k generalizing i m with
  | zero => omega
  | succ k ih =>
      cases i with
      | zero => rfl
      | succ i =>
          rw [trace, List.getElem?_cons_succ, Function.iterate_succ_apply]
          apply ih
          omega

theorem getElem?_trace_eq_some_iff {k i : Nat} {m : Machine} {e : Snapshot} :
    (trace k m)[i]? = some e ↔ i < k ∧ e = (next^[i] m).snapshot := by
  constructor
  · intro h
    have hi : i < k := by
      have := (List.getElem?_eq_some_iff.1 h).1
      rwa [length_trace] at this
    rw [getElem?_trace_of_lt hi, Option.some.injEq] at h
    exact ⟨hi, h.symm⟩
  · rintro ⟨hi, rfl⟩
    exact getElem?_trace_of_lt hi m

theorem getLast?_trace_succ (k : Nat) (m : Machine) :
    (trace (k + 1) m).getLast? = some (next^[k] m).snapshot := by
  rw [List.getLast?_eq_getElem?, length_trace]
  exact getElem?_trace_of_lt (Nat.lt_succ_self k) m

/-! ## The way to a halt -/

/-- The machine runs for `k - 1` more steps, and its `k`-th step from now halts it. -/
structure HaltsIn (m : Machine) (k : Nat) (o : Outcome) : Prop where
  running : ∀ i < k, (next^[i] m).status = .running
  outcome : (next^[k] m).outcome? = some o

theorem status_of_outcome {m : Machine} {o : Outcome} (h : m.outcome? = some o) :
    m.status = .halted o.kind := by
  unfold outcome? at h
  split at h
  · cases h
  · next kind hs =>
    cases h
    exact hs

theorem not_running_of_outcome {m : Machine} {o : Outcome} (h : m.outcome? = some o) :
    m.status ≠ .running := by
  rw [status_of_outcome h]
  exact Status.noConfusion

theorem exists_outcome_of_not_running {m : Machine} (h : m.status ≠ .running) :
    ∃ o, m.outcome? = some o :=
  Option.ne_none_iff_exists'.1 (mt outcome?_eq_none_iff.1 h)

theorem HaltsIn.pos {m : Machine} {k : Nat} {o : Outcome} (h : HaltsIn m k o)
    (hm : m.status = .running) : 0 < k := by
  apply Nat.pos_of_ne_zero
  rintro rfl
  exact not_running_of_outcome h.outcome hm

theorem haltsIn_succ {m : Machine} {k : Nat} {o : Outcome} :
    HaltsIn m (k + 1) o ↔ m.status = .running ∧ HaltsIn m.next k o := by
  constructor
  · intro h
    refine ⟨h.running 0 (Nat.succ_pos k), fun i hi => ?_, h.outcome⟩
    exact h.running (i + 1) (Nat.succ_lt_succ hi)
  · rintro ⟨hm, h⟩
    refine ⟨fun i hi => ?_, h.outcome⟩
    cases i with
    | zero => exact hm
    | succ i => exact h.running i (Nat.lt_of_succ_lt_succ hi)

theorem haltsIn_of_outcome {m : Machine} {o : Outcome} (h : m.outcome? = some o) {k : Nat}
    {o' : Outcome} : HaltsIn m k o' ↔ k = 0 ∧ o' = o := by
  constructor
  · intro hk
    cases k with
    | zero => exact ⟨rfl, Option.some.inj (hk.outcome.symm.trans h)⟩
    | succ k => exact absurd (haltsIn_succ.1 hk).1 (not_running_of_outcome h)
  · rintro ⟨rfl, rfl⟩
    exact ⟨fun i hi => absurd hi (Nat.not_lt_zero i), h⟩

theorem not_haltsIn_of_next_eq {m : Machine} (hm : m.status = .running) (h : m.next = m)
    (k : Nat) (o : Outcome) : ¬ HaltsIn m k o := by
  intro hk
  have hout := hk.outcome
  rw [Function.iterate_fixed h] at hout
  exact not_running_of_outcome hout hm

theorem HaltsIn.advances {m : Machine} {k : Nat} {o : Outcome} (h : HaltsIn m k o) {i : Nat}
    (hi : i < k) : Advances (next^[i] m) (next^[i + 1] m) := by
  induction i generalizing m k with
  | zero =>
      rcases next_eq_or m with heq | ⟨-, hadv⟩
      · exact absurd h (not_haltsIn_of_next_eq (h.running 0 hi) heq k o)
      · exact hadv
  | succ i ih =>
      cases k with
      | zero => omega
      | succ k =>
          rw [Function.iterate_succ_apply, Function.iterate_succ_apply]
          exact ih (haltsIn_succ.1 h).2 (Nat.lt_of_succ_lt_succ hi)

theorem HaltsIn.takes {m : Machine} {k : Nat} {o : Outcome} (h : HaltsIn m k o) : m.Takes k :=
  fun i hi => step_of_advance_ok (h.running i hi) (advance_of_advances (h.advances hi))

theorem HaltsIn.steps_eq {m : Machine} {k : Nat} {o : Outcome} (h : HaltsIn m k o) {i : Nat}
    (hi : i ≤ k) : (next^[i] m).steps = m.steps + i :=
  h.takes.steps_eq hi

theorem running_of_steps_eq {m : Machine} {k : Nat} (h : (next^[k] m).steps = m.steps + k)
    {i : Nat} (hi : i < k) : (next^[i] m).status = .running := by
  by_contra hs
  have hfixed : next^[k] m = next^[i] m := iterate_next_of_not_running hs (Nat.le_of_lt hi)
  have hle := steps_iterate_next_le m i
  rw [← hfixed, h] at hle
  omega

/-! ## Executions -/

theorem executeFor_eq_ok_iff {budget : Nat} {seen : Array Snapshot} {m : Machine}
    (hm : m.status = .running) {o : Outcome} {events : List Snapshot} :
    executeFor budget seen m = .ok (o, events) ↔
      ∃ k ≤ budget, HaltsIn m k o ∧ events = seen.toList ++ trace k m := by
  induction budget generalizing seen m with
  | zero =>
      constructor
      · intro h
        cases h
      · rintro ⟨k, hk, h, -⟩
        have := h.pos hm
        omega
  | succ budget ih =>
      have hcons : (∃ k ≤ budget + 1, HaltsIn m k o ∧ events = seen.toList ++ trace k m) ↔
          ∃ k ≤ budget, HaltsIn m.next k o
            ∧ events = (seen.push m.snapshot).toList ++ trace k m.next := by
        constructor
        · rintro ⟨k, hk, h, rfl⟩
          have hpos := h.pos hm
          obtain ⟨k, rfl⟩ : ∃ j, k = j + 1 := ⟨k - 1, by omega⟩
          exact ⟨k, by omega, (haltsIn_succ.1 h).2, by simp [trace]⟩
        · rintro ⟨k, hk, h, rfl⟩
          exact ⟨k + 1, by omega, haltsIn_succ.2 ⟨hm, h⟩, by simp [trace]⟩
      rw [hcons]
      cases ha : m.advance with
      | error f =>
          have hnext := next_of_advance_error hm ha
          rw [executeFor, ha, hnext]
          constructor
          · intro h
            cases h
          · rintro ⟨k, -, h, -⟩
            exact absurd h (not_haltsIn_of_next_eq hm hnext k o)
      | ok m' =>
          rw [next_of_advance_ok hm ha]
          cases hout : m'.outcome? with
          | some o' =>
              rw [executeFor, ha]
              simp only [hout, haltsIn_of_outcome hout]
              constructor
              · intro h
                cases h
                exact ⟨0, Nat.zero_le _, ⟨rfl, rfl⟩, by simp [trace]⟩
              · rintro ⟨k, -, ⟨rfl, rfl⟩, rfl⟩
                simp [trace]
          | none =>
              rw [executeFor, ha]
              simp only [hout]
              exact ih (outcome?_eq_none_iff.1 hout)

end Machine

/-- A program is executed to an outcome when its machine comes to it before the step
counter is full. -/
theorem Program.execute_eq_ok_iff {p : Program} {l : Label} {rs : Registers} {o : Outcome}
    {events : List Snapshot} :
    p.execute l rs = .ok (o, events) ↔
      ∃ k ≤ stepLimit, Machine.HaltsIn (.start p l rs) k o
        ∧ events = Machine.trace k (.start p l rs) := by
  rw [Program.execute, Machine.executeFor_eq_ok_iff rfl]
  simp

end CounterMachine
