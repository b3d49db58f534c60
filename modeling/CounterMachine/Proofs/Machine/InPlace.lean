import CounterMachine.Proofs.Machine.Faults
import Mathlib.Control.Monad.Basic

/-!
# Machines changed in place

A step gives a new machine or a reason why there is none, so a step that is refused
cannot spoil anything.  On a machine that is changed piece by piece it could: here a
step looks at the label, makes the registers long enough, carries out the instruction
and counts, in this order, and where one of these fails the pieces changed before stay
changed.

* `run_step_eq_ok_iff` and `run_step_eq_fault_iff`: a step in place does what `step`
  says, and a register that is too high breaks it off before anything has changed;
* `loop_eq_fault_iff`: a loop of such steps breaks off at the first instruction that
  cannot be carried out, and leaves what the steps before it have made.

Main statement: a call that fails leaves a machine as it was, and a run that breaks off
leaves it as its last completed step did, `failure_leaves_machine`.
-/

namespace CounterMachine

variable {σ α β : Type}

namespace InPlace

open Machine (below below_iff next trace)

/-- Why an act on a machine ends before it is done. -/
inductive Failure where
  | notRunning (status : Status)
  | fault (fault : Fault)
  | counterFull
deriving DecidableEq

/-! ## The acts -/

def ensure (i : Nat) : EStateM Fault Registers Unit :=
  if i ≤ Registers.highest then modify fun rs => rs.growTo (i + 1)
  else throw (.registerTooHigh i)

def increment (i : Nat) : EStateM Fault Registers Unit := do
  ensure i
  modify fun rs => ⟨rs.values.modify i (· + 1)⟩

def decrement (i : Nat) : EStateM Fault Registers Bool := do
  ensure i
  modifyGet fun rs =>
    if rs.isZero i then (false, rs) else (true, ⟨rs.values.modify i (· - 1)⟩)

def onRegisters (act : EStateM Fault Registers α) : EStateM Failure Machine α := fun m =>
  match act.run m.registers with
  | .ok a rs => .ok a { m with registers := rs }
  | .error f rs => .error (.fault f) { m with registers := rs }

def grow (i : Instruction) : EStateM Failure Machine Unit :=
  match i.register? with
  | some r => onRegisters (ensure r)
  | none => pure ()

def dispatch : Instruction → EStateM Failure Machine Unit
  | .halt => modify fun m => { m with status := .halted .proper }
  | .increment r next => do
    onRegisters (increment r)
    modify fun m => { m with label := next }
  | .decrement r nonzero zero => do
    let taken ← onRegisters (decrement r)
    modify fun m => { m with label := if taken then nonzero else zero }

/-- What is done at a label, apart from counting. -/
def carryOut : Option Instruction → EStateM Failure Machine Unit
  | none => modify fun m => { m with status := .halted .erroneous }
  | some i => do
    grow i
    dispatch i

def count : EStateM Failure Machine Unit := do
  let m ← get
  if m.steps < stepLimit then set { m with steps := m.steps + 1 } else throw .counterFull

def advance : EStateM Failure Machine Snapshot := do
  let m ← get
  carryOut m.current?
  count
  return m.snapshot

def step : EStateM Failure Machine Snapshot := do
  let m ← get
  if m.status = .running then advance else throw (.notRunning m.status)

/-! ## What each act leaves -/

theorem run_bind_of_ok {ε τ : Type} {x : EStateM ε τ α} {s s' : τ} {a : α}
    (h : x.run s = .ok a s') (f : α → EStateM ε τ β) : (x >>= f).run s = (f a).run s' := by
  rw [EStateM.run_bind, h]

theorem run_bind_of_error {ε τ : Type} {x : EStateM ε τ α} {s s' : τ} {e : ε}
    (h : x.run s = .error e s') (f : α → EStateM ε τ β) : (x >>= f).run s = .error e s' := by
  rw [EStateM.run_bind, h]

section Registers

variable {rs : Registers} {r : Nat}

theorem run_ensure (h : r ≤ Registers.highest) :
    (ensure r).run rs = .ok () (rs.growTo (r + 1)) := by
  rw [ensure, if_pos h, EStateM.run_modify]

theorem run_ensure_of_gt (h : Registers.highest < r) :
    (ensure r).run rs = .error (.registerTooHigh r) rs := by
  rw [ensure, if_neg (Nat.not_le.2 h), EStateM.run_throw]

theorem run_increment (h : r ≤ Registers.highest) :
    (increment r).run rs = .ok () (rs.modify r (· + 1)) := by
  rw [increment, run_bind_of_ok (run_ensure h), EStateM.run_modify, Registers.modify]

theorem run_decrement_of_zero (h : r ≤ Registers.highest) (hz : rs.get r = 0) :
    (decrement r).run rs = .ok false (rs.growTo (r + 1)) := by
  have hzero : (rs.growTo (r + 1)).isZero r = true := by
    rw [Registers.isZero_iff, Registers.get_growTo, hz]
  rw [decrement, run_bind_of_ok (run_ensure h), EStateM.run_modifyGet, if_pos hzero]

theorem run_decrement_of_ne_zero (h : r ≤ Registers.highest) (hz : rs.get r ≠ 0) :
    (decrement r).run rs = .ok true (rs.modify r (· - 1)) := by
  have hpos : ¬ (rs.growTo (r + 1)).isZero r = true := by
    rwa [Registers.isZero_iff, Registers.get_growTo]
  rw [decrement, run_bind_of_ok (run_ensure h), EStateM.run_modifyGet, if_neg hpos,
    Registers.modify]

end Registers

variable {m m' : Machine}

theorem run_onRegisters_of_ok {act : EStateM Fault Registers α} {a : α} {rs : Registers}
    (h : act.run m.registers = .ok a rs) :
    (onRegisters act).run m = .ok a { m with registers := rs } := by
  rw [EStateM.run, onRegisters, h]

theorem run_onRegisters_of_error {act : EStateM Fault Registers α} {f : Fault} {rs : Registers}
    (h : act.run m.registers = .error f rs) :
    (onRegisters act).run m = .error (.fault f) { m with registers := rs } := by
  rw [EStateM.run, onRegisters, h]

theorem run_grow {i : Instruction} {r : Nat} (hi : i.register? = some r)
    (hr : r ≤ Registers.highest) :
    (grow i).run m = .ok () { m with registers := m.registers.growTo (r + 1) } := by
  rw [grow, hi]
  exact run_onRegisters_of_ok (run_ensure hr)

theorem run_grow_of_gt {i : Instruction} {r : Nat} (hi : i.register? = some r)
    (hr : Registers.highest < r) : (grow i).run m = .error (.fault (.registerTooHigh r)) m := by
  rw [grow, hi]
  exact run_onRegisters_of_error (run_ensure_of_gt hr)

theorem run_carryOut_of_advances (h : m.Advances m') :
    (carryOut m.current?).run m = .ok () { m' with steps := m.steps } := by
  cases h with
  | undefined h => rw [h, carryOut, EStateM.run_modify]
  | halt h =>
      have hgrow : (grow .halt).run m = .ok () m := rfl
      rw [h, carryOut, run_bind_of_ok hgrow, dispatch, EStateM.run_modify]
  | @increment r next h hr =>
      have hinc : (onRegisters (increment r)).run { m with
          registers := m.registers.growTo (r + 1) }
            = .ok () { m with registers := m.registers.modify r (· + 1) } := by
        rw [run_onRegisters_of_ok (run_increment hr), Registers.modify_growTo]
      rw [h, carryOut, run_bind_of_ok (run_grow rfl hr), dispatch, run_bind_of_ok hinc,
        EStateM.run_modify]
  | @decrementZero r nonzero zero h hr hz =>
      have hdec : (onRegisters (decrement r)).run { m with
          registers := m.registers.growTo (r + 1) }
            = .ok false { m with registers := m.registers.growTo (r + 1) } := by
        rw [run_onRegisters_of_ok (run_decrement_of_zero hr (by simpa using hz)),
          Registers.growTo_growTo (Nat.le_refl _)]
      rw [h, carryOut, run_bind_of_ok (run_grow rfl hr), dispatch, run_bind_of_ok hdec,
        EStateM.run_modify]
      rfl
  | @decrementNonzero r nonzero zero h hr hz =>
      have hdec : (onRegisters (decrement r)).run { m with
          registers := m.registers.growTo (r + 1) }
            = .ok true { m with registers := m.registers.modify r (· - 1) } := by
        rw [run_onRegisters_of_ok (run_decrement_of_ne_zero hr (by simpa using hz)),
          Registers.modify_growTo]
      rw [h, carryOut, run_bind_of_ok (run_grow rfl hr), dispatch, run_bind_of_ok hdec,
        EStateM.run_modify]
      rfl

theorem run_carryOut_of_error {f : Fault} (h : m.advance = .error f) :
    (carryOut m.current?).run m = .error (.fault f) m := by
  obtain ⟨r, hr, hgt, rfl⟩ := Machine.advance_eq_error_iff.1 h
  obtain ⟨i, hi, hreg⟩ := Option.bind_eq_some_iff.1 hr
  rw [hi, carryOut, run_bind_of_error (run_grow_of_gt hreg hgt)]

theorem run_count (h : m.steps < stepLimit) :
    count.run m = .ok () { m with steps := m.steps + 1 } := by
  rw [count, run_bind_of_ok (EStateM.run_get m), if_pos h, EStateM.run_set]

theorem run_count_of_full (h : ¬ m.steps < stepLimit) : count.run m = .error .counterFull m := by
  rw [count, run_bind_of_ok (EStateM.run_get m), if_neg h, EStateM.run_throw]

/-! ## Steps -/

theorem run_step_of_not_running (h : m.status ≠ .running) :
    step.run m = .error (.notRunning m.status) m := by
  rw [step, run_bind_of_ok (EStateM.run_get m), if_neg h]
  rfl

theorem run_step_of_running (h : m.status = .running) : step.run m = advance.run m := by
  rw [step, run_bind_of_ok (EStateM.run_get m), if_pos h]

theorem run_step_of_error {f : Fault} (hs : m.status = .running) (ha : m.advance = .error f) :
    step.run m = .error (.fault f) m := by
  rw [run_step_of_running hs, advance, run_bind_of_ok (EStateM.run_get m),
    run_bind_of_error (run_carryOut_of_error ha)]

theorem run_step_of_ok (hs : m.status = .running) (ha : m.advance = .ok m')
    (hsteps : m.steps < stepLimit) : step.run m = .ok m.snapshot m' := by
  have hcarry := run_carryOut_of_advances (Machine.advance_eq_ok_iff.1 ha)
  have hcount : count.run { m' with steps := m.steps } = .ok () m' := by
    rw [run_count (m := { m' with steps := m.steps }) hsteps, ← Machine.steps_of_advance ha]
  rw [run_step_of_running hs, advance, run_bind_of_ok (EStateM.run_get m),
    run_bind_of_ok hcarry, run_bind_of_ok hcount, EStateM.run_pure]

/-- A step that cannot be counted is not undone. -/
theorem run_step_of_full (hs : m.status = .running) (ha : m.advance = .ok m')
    (hsteps : ¬ m.steps < stepLimit) :
    step.run m = .error .counterFull { m' with steps := m.steps } := by
  have hcarry := run_carryOut_of_advances (Machine.advance_eq_ok_iff.1 ha)
  have hcount := run_count_of_full (m := { m' with steps := m.steps }) hsteps
  rw [run_step_of_running hs, advance, run_bind_of_ok (EStateM.run_get m),
    run_bind_of_ok hcarry, run_bind_of_error hcount]

theorem run_step_eq_ok_iff {event : Snapshot} :
    step.run m = .ok event m' ↔ m.step = .ok (event, m') ∧ m.steps < stepLimit := by
  rw [Machine.step_eq_ok_iff]
  by_cases hs : m.status = .running
  · cases ha : m.advance with
    | error f => simp [run_step_of_error hs ha]
    | ok m'' =>
        by_cases hsteps : m.steps < stepLimit
        · rw [run_step_of_ok hs ha hsteps]
          simp [hs, hsteps, eq_comm]
        · simp [run_step_of_full hs ha hsteps, hsteps]
  · simp [run_step_of_not_running hs, hs]

theorem run_step_eq_fault_iff {f : Fault} :
    step.run m = .error (.fault f) m' ↔ m.step = .error (.fault f) ∧ m' = m := by
  by_cases hs : m.status = .running
  · cases ha : m.advance with
    | error f' =>
        rw [run_step_of_error hs ha, Machine.step_of_advance_error hs ha]
        simp [eq_comm]
    | ok m'' =>
        rw [Machine.step_of_advance_ok hs ha]
        by_cases hsteps : m.steps < stepLimit
        · simp [run_step_of_ok hs ha hsteps]
        · simp [run_step_of_full hs ha hsteps]
  · simp [run_step_of_not_running hs, Machine.step_of_not_running hs]

theorem exists_fault_iff (hs : m.status = .running) :
    (∃ f m', step.run m = .error (.fault f) m') ↔ ∃ r, m.NamesTooHigh r := by
  constructor
  · rintro ⟨f, m', h⟩
    obtain ⟨r, hr, -⟩ := Machine.step_eq_fault_iff.1 (run_step_eq_fault_iff.1 h).1
    exact ⟨r, hr.tooHigh⟩
  · rintro ⟨r, hr⟩
    have hfault := Machine.step_eq_fault_iff.2 ⟨r, Machine.breaksOff_zero.2 ⟨hs, hr⟩, rfl⟩
    exact ⟨_, m, run_step_eq_fault_iff.2 ⟨hfault, rfl⟩⟩

theorem run_step_cases (hs : m.status = .running) (hsteps : m.steps < stepLimit) :
    (∃ m', step.run m = .ok m.snapshot m' ∧ m.step = .ok (m.snapshot, m'))
      ∨ ∃ f, step.run m = .error (.fault f) m := by
  cases ha : m.advance with
  | ok m' => exact Or.inl ⟨m', run_step_of_ok hs ha hsteps, Machine.step_of_advance_ok hs ha⟩
  | error f => exact Or.inr ⟨f, run_step_of_error hs ha⟩

/-! ## Loops -/

/-- Takes steps as long as a machine is to go on, and hands what they tell to the
observer. -/
def loop (goesOn : Machine → Bool) (observe : σ → Snapshot → σ) (seen : σ) (m : Machine) :
    EStateM.Result Failure (σ × Machine) Unit :=
  if goesOn m then
    match _h : step.run m with
    | .ok event m' => loop goesOn observe (observe seen event) m'
    | .error e m' => .error e (seen, m')
  else .ok () (seen, m)
termination_by stepLimit - m.steps
decreasing_by
  obtain ⟨hstep, hsteps⟩ := run_step_eq_ok_iff.1 ‹_›
  have hcount := Machine.steps_of_advance (Machine.step_eq_ok_iff.1 hstep).2.2
  omega

def run (observe : σ → Snapshot → σ) (seen : σ) (m : Machine) :
    EStateM.Result Failure (σ × Machine) Outcome :=
  match loop Machine.isRunning observe seen m with
  | .error e s => .error e s
  | .ok _ s =>
    match s.2.outcome? with
    | some o => .ok o s
    | none => .error (.notRunning s.2.status) s

def runLimited (budget : Nat) (observe : σ → Snapshot → σ) (seen : σ) (m : Machine) :
    EStateM.Result Failure (σ × Machine) (Option Outcome) :=
  if m.status = .running then
    match loop (below (min (m.steps + budget) stepLimit)) observe seen m with
    | .error e s => .error e s
    | .ok _ s => .ok s.2.outcome? s
  else .error (.notRunning m.status) (seen, m)

section Loop

variable {goesOn : Machine → Bool} {observe : σ → Snapshot → σ} {seen : σ}

theorem loop_of_not (h : goesOn m = false) : loop goesOn observe seen m = .ok () (seen, m) := by
  rw [loop, if_neg (by rw [h]; exact Bool.false_ne_true)]

theorem loop_of_ok (h : goesOn m = true) (hs : m.step = .ok (m.snapshot, m'))
    (hsteps : m.steps < stepLimit) :
    loop goesOn observe seen m = loop goesOn observe (observe seen m.snapshot) m' := by
  rw [loop, if_pos h]
  split
  · next event m'' hrun =>
    rw [run_step_eq_ok_iff.2 ⟨hs, hsteps⟩] at hrun
    cases hrun
    rfl
  · next hrun =>
    rw [run_step_eq_ok_iff.2 ⟨hs, hsteps⟩] at hrun
    cases hrun

theorem loop_of_fault {f : Fault} (h : goesOn m = true) (hs : m.step = .error (.fault f)) :
    loop goesOn observe seen m = .error (.fault f) (seen, m) := by
  rw [loop, if_pos h]
  split
  · next hrun =>
    rw [run_step_eq_fault_iff.2 ⟨hs, rfl⟩] at hrun
    cases hrun
  · next hrun =>
    rw [run_step_eq_fault_iff.2 ⟨hs, rfl⟩] at hrun
    cases hrun
    rfl

theorem loop_of_takes {k : Nat} (h : m.Takes k) (hgo : ∀ i < k, goesOn (next^[i] m) = true)
    (hsteps : m.steps + k ≤ stepLimit) :
    loop goesOn observe seen m
      = loop goesOn observe ((trace k m).foldl observe seen) (next^[k] m) := by
  induction k generalizing seen m with
  | zero => rfl
  | succ k ih =>
      obtain ⟨hstep, hrest⟩ := Machine.takes_succ.1 h
      have hcount := Machine.steps_of_advance (Machine.step_eq_ok_iff.1 hstep).2.2
      have hnow : goesOn m = true := hgo 0 (Nat.succ_pos k)
      have hlater : ∀ i < k, goesOn (next^[i] m.next) = true := fun i hi =>
        hgo (i + 1) (Nat.succ_lt_succ hi)
      rw [loop_of_ok hnow hstep (by omega), trace, List.foldl_cons, Function.iterate_succ_apply]
      exact ih hrest hlater (by omega)

theorem exists_takes_of_loop_eq_ok {s : σ × Machine} (hsteps : m.steps ≤ stepLimit)
    (h : loop goesOn observe seen m = .ok () s) :
    ∃ k, m.Takes k ∧ (∀ i < k, goesOn (next^[i] m) = true) ∧ m.steps + k ≤ stepLimit
      ∧ s = ((trace k m).foldl observe seen, next^[k] m) := by
  fun_induction loop goesOn observe seen m with
  | case1 seen m hgo event m' hrun ih =>
      obtain ⟨hstep, hlt⟩ := run_step_eq_ok_iff.1 hrun
      obtain ⟨hrunning, rfl, ha⟩ := Machine.step_eq_ok_iff.1 hstep
      obtain rfl := Machine.next_of_advance_ok hrunning ha
      have hcount := Machine.steps_of_advance ha
      obtain ⟨k, htakes, hmore, hroom, hs⟩ := ih (by omega) h
      refine ⟨k + 1, Machine.takes_succ.2 ⟨hstep, htakes⟩, fun i hi => ?_, by omega, hs⟩
      cases i with
      | zero => exact hgo
      | succ i => exact hmore i (Nat.lt_of_succ_lt_succ hi)
  | case2 => cases h
  | case3 seen m hgo =>
      cases h
      exact ⟨0, fun i hi => absurd hi (Nat.not_lt_zero i), fun i hi => absurd hi (Nat.not_lt_zero i),
        hsteps, rfl⟩

theorem loop_eq_fault_iff {f : Fault} {s : σ × Machine} (hs : s.2.steps < stepLimit) :
    loop goesOn observe seen m = .error (.fault f) s ↔
      ∃ k, m.Leaves observe seen k f s ∧ ∀ i ≤ k, goesOn (next^[i] m) = true := by
  constructor
  · fun_induction loop goesOn observe seen m with
    | case1 seen m hgo event m' hrun ih =>
        intro h
        obtain ⟨hstep, -⟩ := run_step_eq_ok_iff.1 hrun
        obtain ⟨hrunning, rfl, ha⟩ := Machine.step_eq_ok_iff.1 hstep
        obtain rfl := Machine.next_of_advance_ok hrunning ha
        obtain ⟨k, hleaves, hmore⟩ := ih h
        refine ⟨k + 1, Machine.leaves_succ.2 ⟨hstep, hleaves⟩, fun i hi => ?_⟩
        cases i with
        | zero => exact hgo
        | succ i => exact hmore i (Nat.le_of_succ_le_succ hi)
    | case2 seen m hgo e m' hrun =>
        intro h
        cases h
        obtain ⟨hstep, rfl⟩ := run_step_eq_fault_iff.1 hrun
        refine ⟨0, Machine.leaves_zero.2 ⟨hstep, rfl⟩, fun i hi => ?_⟩
        obtain rfl := Nat.le_zero.1 hi
        exact hgo
    | case3 seen m hgo =>
        intro h
        cases h
  · rintro ⟨k, ⟨r, h, rfl, rfl⟩, hgo⟩
    have hsteps : m.steps + k ≤ stepLimit := by
      rw [← h.takes.steps_eq (Nat.le_refl k)]
      exact Nat.le_of_lt hs
    rw [loop_of_takes h.takes (fun i hi => hgo i (Nat.le_of_lt hi)) hsteps]
    exact loop_of_fault (hgo k (Nat.le_refl k)) h.step_eq

end Loop

section Runs

variable {observe : σ → Snapshot → σ} {seen : σ} {f : Fault} {s : σ × Machine}

theorem run_of_outcome {o : Outcome} (h : m.outcome? = some o) :
    run observe seen m = .ok o (seen, m) := by
  have hstopped : m.isRunning = false := by
    rw [Bool.eq_false_iff, Ne, Machine.isRunning_iff]
    exact Machine.not_running_of_outcome h
  rw [run, loop_of_not hstopped]
  simp only [h]

theorem run_of_haltsIn {k : Nat} {o : Outcome} (h : m.HaltsIn k o)
    (hsteps : m.steps + k ≤ stepLimit) :
    run observe seen m = .ok o ((trace k m).foldl observe seen, next^[k] m) := by
  have hgo : ∀ i < k, (next^[i] m).isRunning = true := fun i hi =>
    Machine.isRunning_iff.2 (h.running i hi)
  rw [run, loop_of_takes h.takes hgo hsteps]
  exact run_of_outcome h.outcome

theorem run_eq_ok_iff (hsteps : m.steps ≤ stepLimit) {o : Outcome} :
    run observe seen m = .ok o s ↔
      ∃ k, m.HaltsIn k o ∧ m.steps + k ≤ stepLimit
        ∧ s = ((trace k m).foldl observe seen, next^[k] m) := by
  constructor
  · intro h
    unfold run at h
    split at h
    · cases h
    · next hloop =>
      split at h
      · next ho =>
        cases h
        obtain ⟨k, htakes, -, hroom, rfl⟩ := exists_takes_of_loop_eq_ok hsteps hloop
        exact ⟨k, ⟨fun i hi => htakes.running hi, ho⟩, hroom, rfl⟩
      · cases h
  · rintro ⟨k, h, hroom, rfl⟩
    exact run_of_haltsIn h hroom

theorem runLimited_of_not_running (h : m.status ≠ .running) (budget : Nat) :
    runLimited budget observe seen m = .error (.notRunning m.status) (seen, m) := by
  rw [runLimited, if_neg h]

theorem run_eq_fault_iff (hs : s.2.steps < stepLimit) :
    run observe seen m = .error (.fault f) s ↔ ∃ k, m.Leaves observe seen k f s := by
  have hloop : run observe seen m = .error (.fault f) s
      ↔ loop Machine.isRunning observe seen m = .error (.fault f) s := by
    unfold run
    cases loop Machine.isRunning observe seen m with
    | error e s' => simp
    | ok u s' => cases ho : s'.2.outcome? <;> simp [ho]
  rw [hloop, loop_eq_fault_iff hs]
  constructor
  · rintro ⟨k, h, -⟩
    exact ⟨k, h⟩
  · rintro ⟨k, h⟩
    exact ⟨k, h, fun i hi => Machine.isRunning_iff.2 (h.running hi)⟩

theorem runLimited_eq_fault_iff {budget : Nat} (hs : s.2.steps < stepLimit) :
    runLimited budget observe seen m = .error (.fault f) s
      ↔ ∃ k < budget, m.Leaves observe seen k f s := by
  by_cases hm : m.status = .running
  · have hloop : runLimited budget observe seen m = .error (.fault f) s
        ↔ loop (below (min (m.steps + budget) stepLimit)) observe seen m
          = .error (.fault f) s := by
      rw [runLimited, if_pos hm]
      cases loop (below (min (m.steps + budget) stepLimit)) observe seen m <;> simp
    rw [hloop, loop_eq_fault_iff hs]
    constructor
    · rintro ⟨k, h, hgo⟩
      have hlast := (below_iff.1 (hgo k (Nat.le_refl k))).2
      have hcount := h.steps_iterate_next (Nat.le_refl k)
      exact ⟨k, by omega, h⟩
    · rintro ⟨k, hk, h⟩
      have hend := h.steps_eq
      refine ⟨k, h, fun i hi => below_iff.2 ⟨h.running hi, ?_⟩⟩
      have hcount := h.steps_iterate_next hi
      omega
  · rw [runLimited_of_not_running hm]
    constructor
    · intro h
      cases h
    · rintro ⟨k, -, h⟩
      exact absurd (h.running (Nat.zero_le k)) hm

end Runs

/-- **A failure leaves a machine intact.**  A machine that has halted is refused or left
alone by every call, and nothing is told to the observer.  A step of a running machine
breaks off just when its instruction names a register that is too high, and has changed
nothing then.  A run that such an instruction breaks off leaves the machine as its last
completed step did, and the observer has been told of the completed steps. -/
theorem failure_leaves_machine (m : Machine) (budget : Nat) (observe : σ → Snapshot → σ)
    (seen : σ) :
    (m.status ≠ .running →
      step.run m = .error (.notRunning m.status) m
        ∧ runLimited budget observe seen m = .error (.notRunning m.status) (seen, m)
        ∧ m.runLimited budget observe seen = ⟨seen, m, .error (.notRunning m.status)⟩
        ∧ ∃ o, m.outcome? = some o ∧ run observe seen m = .ok o (seen, m)
          ∧ m.run observe seen = ⟨seen, m, .ok o⟩)
      ∧ (m.status = .running → m.steps < stepLimit →
        ((∃ f m', step.run m = .error (.fault f) m') ↔ ∃ r, m.NamesTooHigh r)
          ∧ (∀ e m', step.run m = .error e m' → m' = m)
          ∧ ((¬ ∃ r, m.NamesTooHigh r) →
            ∃ m', step.run m = .ok m.snapshot m' ∧ m.step = .ok (m.snapshot, m')))
      ∧ ∀ f s, s.2.steps < stepLimit →
        (run observe seen m = .error (.fault f) s ↔ ∃ k, m.Leaves observe seen k f s)
          ∧ (m.run observe seen = ⟨s.1, s.2, .error (.fault f)⟩ ↔
            ∃ k, m.Leaves observe seen k f s)
          ∧ (runLimited budget observe seen m = .error (.fault f) s ↔
            ∃ k < budget, m.Leaves observe seen k f s)
          ∧ (m.runLimited budget observe seen = ⟨s.1, s.2, .error (.fault f)⟩ ↔
            ∃ k < budget, m.Leaves observe seen k f s) := by
  refine ⟨fun hs => ?_, fun hs hsteps => ?_, fun f s hs => ?_⟩
  · obtain ⟨o, ho⟩ := Machine.exists_outcome_of_not_running hs
    exact ⟨run_step_of_not_running hs, runLimited_of_not_running hs budget,
      Machine.runLimited_of_not_running hs budget observe seen, o, ho, run_of_outcome ho,
      Machine.run_of_outcome ho observe seen⟩
  · have hbreaks := exists_fault_iff hs
    rcases run_step_cases hs hsteps with ⟨m', hok, hstep⟩ | ⟨f, hfault⟩
    · refine ⟨hbreaks, fun e m'' h => ?_, fun _ => ⟨m', hok, hstep⟩⟩
      rw [hok] at h
      cases h
    · refine ⟨hbreaks, fun e m'' h => ?_, fun hr => absurd (hbreaks.1 ⟨f, m, hfault⟩) hr⟩
      rw [hfault] at h
      cases h
      rfl
  · exact ⟨run_eq_fault_iff hs, Machine.run_eq_fault_iff hs, runLimited_eq_fault_iff hs,
      Machine.runLimited_eq_fault_iff hs⟩

/-- A saved program goes beyond the highest register with its second instruction: a run
of one step ends before it, a longer one leaves the machine there, and the same machine
when it has halted is refused. -/
theorem failure_leaves_machine_beyond :
    let p : Program := .ofDefinitions
      [(⟨"a"⟩, .increment 0 ⟨"b"⟩), (⟨"b"⟩, .decrement 65536 ⟨"a"⟩ ⟨"c"⟩)]
    let m : Machine := .start p ⟨"a"⟩ .empty
    let left : Machine := { m with label := ⟨"b"⟩, registers := .ofList [1], steps := 1 }
    let halted : Machine := { left with status := .halted .erroneous }
    let s := (#[Snapshot.mk 0 ⟨"a"⟩ .empty], left)
    let broken := Failure.fault (.registerTooHigh 65536)
    s.2.steps < stepLimit
      ∧ run Machine.record #[] m = .error broken s
      ∧ runLimited 2 Machine.record #[] m = .error broken s
      ∧ runLimited 1 Machine.record #[] m ≠ .error broken s
      ∧ left.status = .running ∧ (∃ r, left.NamesTooHigh r)
      ∧ (∃ f, step.run left = .error (.fault f) left)
      ∧ halted.status ≠ .running
      ∧ step.run halted = .error (.notRunning (.halted .erroneous)) halted := by
  intro p m left halted s broken
  have hstep : m.step = .ok (m.snapshot, left) := by
    decide +kernel
  have hhigh : left.NamesTooHigh 65536 :=
    ⟨.decrement 65536 ⟨"a"⟩ ⟨"c"⟩, by decide +kernel, rfl, by decide⟩
  have hnext : m.next = left := by
    rw [Machine.next, hstep]
  have hleaves : m.Leaves Machine.record #[] 1 (.registerTooHigh 65536) s := by
    rw [Machine.leaves_succ, hnext]
    exact ⟨hstep, 65536, Machine.breaksOff_zero.2 ⟨rfl, hhigh⟩, rfl, rfl⟩
  have hsteps : s.2.steps < stepLimit := by
    decide
  have hhalted : halted.status ≠ .running := by
    decide
  obtain ⟨-, -, hlong⟩ := failure_leaves_machine m 2 Machine.record #[]
  obtain ⟨hrun, -, hlimited, -⟩ := hlong (.registerTooHigh 65536) s hsteps
  obtain ⟨-, -, hshort⟩ := failure_leaves_machine m 1 Machine.record #[]
  have hbefore : runLimited 1 Machine.record #[] m ≠ .error broken s := by
    intro h
    obtain ⟨k, hk, hleft⟩ := (hshort (.registerTooHigh 65536) s hsteps).2.2.1.1 h
    have hcount : 1 = 0 + k := hleft.steps_eq
    omega
  obtain ⟨-, hstuck, -⟩ := failure_leaves_machine left 1 Machine.record #[]
  obtain ⟨hbreaks, hkeeps, -⟩ := hstuck rfl hsteps
  obtain ⟨f, m', hf⟩ := hbreaks.2 ⟨65536, hhigh⟩
  obtain rfl := hkeeps _ _ hf
  obtain ⟨hrefused, -⟩ := failure_leaves_machine halted 1 Machine.record #[]
  exact ⟨hsteps, hrun.2 ⟨1, hleaves⟩, hlimited.2 ⟨1, by decide, hleaves⟩, hbefore, rfl,
    ⟨65536, hhigh⟩, ⟨f, hf⟩, hhalted, (hrefused hhalted).1⟩

end InPlace

end CounterMachine
