import CounterMachine.Machine.Basic

/-!
# Runs

A run takes a machine step by step and hands what is seen before each step to
an observer, which folds it into a value of its own. `runLimited` stops after
a number of steps and gives the outcome if there is one, `run` stops at the
halt and gives the outcome, and `execute` takes a program from its start to
the halt and collects everything seen.

The step counter ends at `stepLimit`; no run goes beyond it. `runFor_add` says
that a run may be taken in stretches.
-/

namespace CounterMachine

/-- What a run leaves and what it returns: the observer's value, the machine,
and a value or the reason why a step was not taken. -/
structure Run (σ α : Type) where
  seen : σ
  machine : Machine
  result : Except StepError α

namespace Run

variable {σ α β : Type}

def map (f : α → β) (r : Run σ α) : Run σ β := ⟨r.seen, r.machine, r.result.map f⟩

def returning (r : Run σ Unit) (value : Machine → Except StepError α) : Run σ α :=
  ⟨r.seen, r.machine, r.result.bind fun _ => value r.machine⟩

@[simp] theorem seen_returning (r : Run σ Unit) (value : Machine → Except StepError α) :
    (r.returning value).seen = r.seen := rfl

@[simp] theorem machine_returning (r : Run σ Unit) (value : Machine → Except StepError α) :
    (r.returning value).machine = r.machine := rfl

end Run

inductive ExecuteError where
  | fault (fault : Fault)
  | counterFull
deriving DecidableEq

namespace Machine

variable {σ : Type}

/-- Takes steps while a machine is to go on. The room is what is left of the
step counter. -/
def loop (goesOn : Machine → Bool) (observe : σ → Snapshot → σ) :
    Nat → σ → Machine → Run σ Unit
  | 0, seen, m => ⟨seen, m, .ok ()⟩
  | room + 1, seen, m =>
    if goesOn m then
      match m.step with
      | .ok (event, m') => loop goesOn observe room (observe seen event) m'
      | .error e => ⟨seen, m, .error e⟩
    else ⟨seen, m, .ok ()⟩

def below (limit : Nat) (m : Machine) : Bool := m.isRunning && decide (m.steps < limit)

/-- Runs a machine for at most `budget` steps and gives the outcome if it has
halted by then. A machine that has halted before is refused. -/
def runLimited (m : Machine) (budget : Nat) (observe : σ → Snapshot → σ) (seen : σ) :
    Run σ (Option Outcome) :=
  if m.status = .running then
    let limit := min (m.steps + budget) stepLimit
    (loop (below limit) observe (stepLimit - m.steps) seen m).returning fun m => .ok m.outcome?
  else ⟨seen, m, .error (.notRunning m.status)⟩

/-- Runs a machine to its halt and gives the outcome. A machine that has halted
stays as it is. -/
def run (m : Machine) (observe : σ → Snapshot → σ) (seen : σ) : Run σ Outcome :=
  (loop isRunning observe (stepLimit - m.steps) seen m).returning fun m =>
    match m.outcome? with
    | some outcome => .ok outcome
    | none => .error (.notRunning m.status)

def executeFor : Nat → Array Snapshot → Machine → Except ExecuteError (Outcome × List Snapshot)
  | 0, _, _ => .error .counterFull
  | budget + 1, trace, m =>
    match m.advance with
    | .error f => .error (.fault f)
    | .ok m' =>
      match m'.outcome? with
      | some outcome => .ok (outcome, (trace.push m.snapshot).toList)
      | none => executeFor budget (trace.push m.snapshot) m'

def record (trace : Array Snapshot) (event : Snapshot) : Array Snapshot := trace.push event

def ignore (_ : Unit) (_ : Snapshot) : Unit := ()

end Machine

/-- Runs a program from a label and registers to its halt, with everything seen
on the way. -/
def Program.execute (p : Program) (label : Label) (registers : Registers) :
    Except ExecuteError (Outcome × List Snapshot) :=
  Machine.executeFor stepLimit #[] (.start p label registers)

namespace Machine

variable {σ : Type}

/-- Takes steps until the machine has halted, `n` steps are done or an
instruction cannot be carried out. -/
def runFor (observe : σ → Snapshot → σ) (n : Nat) (seen : σ) (m : Machine) : Run σ Unit :=
  loop isRunning observe n seen m

theorem below_iff {limit : Nat} {m : Machine} :
    below limit m = true ↔ m.status = .running ∧ m.steps < limit := by
  rw [below, Bool.and_eq_true, isRunning_iff, decide_eq_true_iff]

@[simp] theorem runFor_zero (observe : σ → Snapshot → σ) (seen : σ) (m : Machine) :
    runFor observe 0 seen m = ⟨seen, m, .ok ()⟩ := rfl

theorem loop_of_not {goesOn : Machine → Bool} {m : Machine} (h : goesOn m = false)
    (observe : σ → Snapshot → σ) (room : Nat) (seen : σ) :
    loop goesOn observe room seen m = ⟨seen, m, .ok ()⟩ := by
  cases room with
  | zero => rfl
  | succ room => rw [loop, if_neg (by rw [h]; exact Bool.false_ne_true)]

theorem loop_of_advance_ok {goesOn : Machine → Bool} {m m' : Machine} (h : goesOn m = true)
    (hs : m.status = .running) (ha : m.advance = .ok m') (observe : σ → Snapshot → σ)
    (room : Nat) (seen : σ) :
    loop goesOn observe (room + 1) seen m
      = loop goesOn observe room (observe seen m.snapshot) m' := by
  rw [loop, if_pos h, step_of_advance_ok hs ha]

theorem loop_of_advance_error {goesOn : Machine → Bool} {m : Machine} {f : Fault}
    (h : goesOn m = true) (hs : m.status = .running) (ha : m.advance = .error f)
    (observe : σ → Snapshot → σ) (room : Nat) (seen : σ) :
    loop goesOn observe (room + 1) seen m = ⟨seen, m, .error (.fault f)⟩ := by
  rw [loop, if_pos h, step_of_advance_error hs ha]

theorem runFor_of_not_running (observe : σ → Snapshot → σ) (n : Nat) (seen : σ) {m : Machine}
    (h : m.status ≠ .running) : runFor observe n seen m = ⟨seen, m, .ok ()⟩ :=
  loop_of_not (Bool.eq_false_iff.2 fun hr => h (isRunning_iff.1 hr)) observe n seen

theorem runFor_of_advance_ok (observe : σ → Snapshot → σ) (n : Nat) (seen : σ) {m m' : Machine}
    (h : m.status = .running) (ha : m.advance = .ok m') :
    runFor observe (n + 1) seen m = runFor observe n (observe seen m.snapshot) m' :=
  loop_of_advance_ok (isRunning_iff.2 h) h ha observe n seen

theorem runFor_of_advance_error (observe : σ → Snapshot → σ) (n : Nat) (seen : σ) {m : Machine}
    {f : Fault} (h : m.status = .running) (ha : m.advance = .error f) :
    runFor observe (n + 1) seen m = ⟨seen, m, .error (.fault f)⟩ :=
  loop_of_advance_error (isRunning_iff.2 h) h ha observe n seen

theorem runFor_add (observe : σ → Snapshot → σ) (a b : Nat) (seen : σ) (m : Machine)
    (h : (runFor observe a seen m).result = .ok ()) :
    runFor observe (a + b) seen m =
      runFor observe b (runFor observe a seen m).seen (runFor observe a seen m).machine := by
  induction a generalizing seen m with
  | zero => rw [Nat.zero_add, runFor_zero]
  | succ a ih =>
    by_cases hs : m.status = .running
    · cases ha : m.advance with
      | ok m' =>
        rw [runFor_of_advance_ok observe a seen hs ha] at h ⊢
        rw [Nat.add_right_comm, runFor_of_advance_ok observe (a + b) seen hs ha, ih _ _ h]
      | error f =>
        rw [runFor_of_advance_error observe a seen hs ha] at h
        cases h
    · rw [runFor_of_not_running observe _ seen hs, runFor_of_not_running observe _ seen hs,
        runFor_of_not_running observe b seen hs]

theorem loop_below (limit room : Nat) (observe : σ → Snapshot → σ) (seen : σ) (m : Machine) :
    loop (below limit) observe room seen m
      = runFor observe (min room (limit - m.steps)) seen m := by
  induction room generalizing seen m with
  | zero => rw [Nat.zero_min]; rfl
  | succ room ih =>
    by_cases hs : m.status = .running
    · by_cases hlt : m.steps < limit
      · have hgo : below limit m = true := below_iff.2 ⟨hs, hlt⟩
        have hcount : min (room + 1) (limit - m.steps)
            = min room (limit - (m.steps + 1)) + 1 := by omega
        cases ha : m.advance with
        | ok m' =>
          rw [loop_of_advance_ok hgo hs ha, ih, hcount, runFor_of_advance_ok observe _ seen hs ha,
            steps_of_advance ha]
        | error f =>
          rw [loop_of_advance_error hgo hs ha, hcount,
            runFor_of_advance_error observe _ seen hs ha]
      · have hstop : below limit m = false :=
          Bool.eq_false_iff.2 fun h => hlt (below_iff.1 h).2
        have hcount : min (room + 1) (limit - m.steps) = 0 := by omega
        rw [loop_of_not hstop, hcount, runFor_zero]
    · have hstop : below limit m = false := Bool.eq_false_iff.2 fun h => hs (below_iff.1 h).1
      rw [loop_of_not hstop, runFor_of_not_running observe _ seen hs]

theorem runLimited_of_running {m : Machine} (h : m.status = .running) (budget : Nat)
    (observe : σ → Snapshot → σ) (seen : σ) :
    m.runLimited budget observe seen =
      (runFor observe (min (m.steps + budget) stepLimit - m.steps) seen m).returning
        fun m => .ok m.outcome? := by
  have hroom : min (stepLimit - m.steps) (min (m.steps + budget) stepLimit - m.steps)
      = min (m.steps + budget) stepLimit - m.steps := by omega
  simp only [runLimited, if_pos h, loop_below, hroom]

theorem runLimited_of_not_running {m : Machine} (h : m.status ≠ .running) (budget : Nat)
    (observe : σ → Snapshot → σ) (seen : σ) :
    m.runLimited budget observe seen = ⟨seen, m, .error (.notRunning m.status)⟩ := if_neg h

theorem run_of_outcome {m : Machine} {o : Outcome} (h : m.outcome? = some o)
    (observe : σ → Snapshot → σ) (seen : σ) : m.run observe seen = ⟨seen, m, .ok o⟩ := by
  have hstopped : m.isRunning = false := by
    rw [Bool.eq_false_iff, Ne, isRunning_iff, ← outcome?_eq_none_iff, h]
    exact Option.some_ne_none o
  simp only [run, loop_of_not hstopped, Run.returning, h]
  rfl

end Machine

end CounterMachine
