import CounterMachine.Program
import CounterMachine.Registers

/-!
# Machines

A machine is a program on its way: the label of the next step, the registers,
the number of steps so far and whether it still runs. A step carries out the
instruction at the label. Halting counts as a step and changes neither label
nor registers; a label without an instruction halts the machine as well.

The main definitions are `Machine.advance`, one step of a running machine, and
`Machine.step`, which refuses a machine that has halted.
-/

namespace CounterMachine

inductive HaltKind where
  | proper
  | erroneous
deriving DecidableEq, Inhabited

inductive Status where
  | running
  | halted (kind : HaltKind)
deriving DecidableEq, Inhabited

def stepLimit : Nat := (1 <<< 64) - 1

structure Snapshot where
  step : Nat
  label : Label
  registers : Registers
deriving DecidableEq, Inhabited

/-- How a run ended: the kind of halt, the number of steps with the one that
halted, and the last label and registers. -/
structure Outcome where
  kind : HaltKind
  stepCount : Nat
  label : Label
  registers : Registers
deriving DecidableEq, Inhabited

/-- A program, where it starts and how far it has come. -/
structure Machine where
  program : Program
  startLabel : Label
  initialRegisters : Registers
  label : Label
  registers : Registers
  status : Status
  steps : Nat
deriving DecidableEq

inductive StepError where
  | notRunning (status : Status)
  | fault (fault : Fault)
deriving DecidableEq

namespace Status

def name : Status → String
  | running => "Running"
  | halted .proper => "ProperHalt"
  | halted .erroneous => "ErroneousHalt"

end Status

namespace Outcome

def finalStep (o : Outcome) : Nat := o.stepCount - 1

def isProper (o : Outcome) : Bool := o.kind == .proper

end Outcome

namespace StepError

def message : StepError → String
  | notRunning status => "machine not running: " ++ status.name
  | fault f => f.message

end StepError

namespace Machine

def start (program : Program) (label : Label) (registers : Registers) : Machine where
  program := program
  startLabel := label
  initialRegisters := registers
  label := label
  registers := registers
  status := .running
  steps := 0

def reset (m : Machine) : Machine :=
  start m.program m.startLabel m.initialRegisters

def isRunning (m : Machine) : Bool := m.status == .running

def isHalted (m : Machine) : Bool := m.status != .running

def snapshot (m : Machine) : Snapshot := ⟨m.steps, m.label, m.registers⟩

def current? (m : Machine) : Option Instruction := m.program.get? m.label

def outcome? (m : Machine) : Option Outcome :=
  match m.status with
  | .running => none
  | .halted kind => some ⟨kind, m.steps, m.label, m.registers⟩

def advance (m : Machine) : Except Fault Machine :=
  match m.current? with
  | none => .ok { m with status := .halted .erroneous, steps := m.steps + 1 }
  | some .halt => .ok { m with status := .halted .proper, steps := m.steps + 1 }
  | some (.increment r next) =>
    (m.registers.increment r).map fun rs =>
      { m with label := next, registers := rs, steps := m.steps + 1 }
  | some (.decrement r nonzero zero) =>
    (m.registers.decrement r).map fun (taken, rs) =>
      { m with
        label := if taken then nonzero else zero
        registers := rs
        steps := m.steps + 1 }

/-- One step, with what was seen before it. -/
def step (m : Machine) : Except StepError (Snapshot × Machine) :=
  if m.status = .running then
    match m.advance with
    | .ok m' => .ok (m.snapshot, m')
    | .error f => .error (.fault f)
  else .error (.notRunning m.status)

@[simp] theorem start_steps (p : Program) (l : Label) (rs : Registers) :
    (start p l rs).steps = 0 := rfl

@[simp] theorem start_status (p : Program) (l : Label) (rs : Registers) :
    (start p l rs).status = .running := rfl

@[simp] theorem reset_start (p : Program) (l : Label) (rs : Registers) :
    (start p l rs).reset = start p l rs := rfl

@[simp] theorem reset_reset (m : Machine) : m.reset.reset = m.reset := rfl

theorem isRunning_iff {m : Machine} : m.isRunning = true ↔ m.status = .running := by
  simp [isRunning]

theorem outcome?_eq_none_iff {m : Machine} : m.outcome? = none ↔ m.status = .running := by
  unfold outcome?
  split <;> simp_all

theorem step_of_not_running {m : Machine} (h : m.status ≠ .running) :
    m.step = .error (.notRunning m.status) := if_neg h

theorem step_of_advance_ok {m m' : Machine} (h : m.status = .running)
    (ha : m.advance = .ok m') : m.step = .ok (m.snapshot, m') := by
  rw [step, if_pos h, ha]

theorem step_of_advance_error {m : Machine} {f : Fault} (h : m.status = .running)
    (ha : m.advance = .error f) : m.step = .error (.fault f) := by
  rw [step, if_pos h, ha]

/-! ## One step, by the instruction at the label -/

theorem advance_undefined {m : Machine} (h : m.current? = none) :
    m.advance = .ok { m with status := .halted .erroneous, steps := m.steps + 1 } := by
  rw [advance, h]

theorem advance_halt {m : Machine} (h : m.current? = some .halt) :
    m.advance = .ok { m with status := .halted .proper, steps := m.steps + 1 } := by
  rw [advance, h]

theorem advance_increment {m : Machine} {r : Nat} {next : Label}
    (h : m.current? = some (.increment r next)) (hr : r ≤ Registers.highest) :
    m.advance = .ok { m with
      label := next, registers := m.registers.modify r (· + 1), steps := m.steps + 1 } := by
  rw [advance, h]
  simp only [Registers.increment_of_le hr]
  rfl

theorem advance_decrement_zero {m : Machine} {r : Nat} {nonzero zero : Label}
    (h : m.current? = some (.decrement r nonzero zero)) (hr : r ≤ Registers.highest)
    (hz : m.registers.get r = 0) :
    m.advance = .ok { m with
      label := zero, registers := m.registers.growTo (r + 1), steps := m.steps + 1 } := by
  rw [advance, h]
  simp only [Registers.decrement_of_zero hr hz]
  rfl

theorem advance_decrement_nonzero {m : Machine} {r : Nat} {nonzero zero : Label}
    (h : m.current? = some (.decrement r nonzero zero)) (hr : r ≤ Registers.highest)
    (hz : m.registers.get r ≠ 0) :
    m.advance = .ok { m with
      label := nonzero, registers := m.registers.modify r (· - 1), steps := m.steps + 1 } := by
  rw [advance, h]
  simp only [Registers.decrement_of_ne_zero hr hz]
  rfl

theorem advance_eq_error_iff {m : Machine} {f : Fault} :
    m.advance = .error f ↔
      ∃ r, m.current?.bind Instruction.register? = some r ∧ Registers.highest < r
        ∧ f = .registerTooHigh r := by
  rcases h : m.current? with _ | i
  · simp [advance_undefined h]
  · cases i with
    | halt => simp [advance_halt h, Instruction.register?]
    | increment r next =>
      by_cases hr : r ≤ Registers.highest
      · simp only [advance_increment h hr, Option.bind_some, Instruction.register?]
        grind
      · simp only [advance, h, Registers.increment_of_gt (Nat.lt_of_not_le hr), Except.map,
          Option.bind_some, Instruction.register?]
        grind
    | decrement r nonzero zero =>
      by_cases hr : r ≤ Registers.highest
      · by_cases hz : m.registers.get r = 0
        · simp only [advance_decrement_zero h hr hz, Option.bind_some, Instruction.register?]
          grind
        · simp only [advance_decrement_nonzero h hr hz, Option.bind_some, Instruction.register?]
          grind
      · simp only [advance, h, Registers.decrement_of_gt (Nat.lt_of_not_le hr), Except.map,
          Option.bind_some, Instruction.register?]
        grind

theorem steps_of_advance {m m' : Machine} (h : m.advance = .ok m') :
    m'.steps = m.steps + 1 := by
  unfold advance at h
  split at h
  · cases h; rfl
  · cases h; rfl
  · next r _ _ =>
    cases hr : m.registers.increment r <;> rw [hr] at h <;> cases h
    rfl
  · next r _ _ _ =>
    cases hr : m.registers.decrement r <;> rw [hr] at h <;> cases h
    rfl

end Machine

end CounterMachine
