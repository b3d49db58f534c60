import CounterMachine.Report
import CounterMachine.Source.Load
import Std.Data.ExtTreeSet

/-!
# The debugger

The debugger takes a machine through its run, one step at a time or many in a
row, and stops before labels with a breakpoint. Whatever it does, its machine
is the loaded one some steps on.
-/

namespace CounterMachine

inductive Notice where
  | ready
  | stepped (seen : Snapshot) (instruction? : Option Instruction)
  | halted (outcome : Outcome)
  | failed (error : StepError)
  | running
  | paused
  | stoppedAt (label : Label)
  | breakpointSet (label : Label)
  | breakpointRemoved (label : Label)
  | reset
deriving DecidableEq

namespace Notice

def text : Notice → String
  | ready => "Ready. Press 's' to step, 'r' to run, 'q' to quit."
  | stepped seen instruction? =>
    seen.text ++ ": " ++ (instruction?.map Instruction.text).getD "<undefined>"
  | halted outcome => outcome.notice
  | failed error => "Error: " ++ error.message
  | running => "Running..."
  | paused => "Paused."
  | stoppedAt label => "Breakpoint at " ++ label.text
  | breakpointSet label => "Set breakpoint at " ++ label.text
  | breakpointRemoved label => "Removed breakpoint at " ++ label.text
  | reset => "Reset. Ready."

end Notice

structure Debugger where
  machine : Machine
  breakpoints : Std.ExtTreeSet Label
  running : Bool
  notice : Notice
  scroll : Nat

namespace Debugger

def ofSetup (setup : Setup) : Debugger where
  machine := setup.machine
  breakpoints := ∅
  running := false
  notice := .ready
  scroll := 0

def atBreakpoint (d : Debugger) : Bool := d.breakpoints.contains d.machine.label

def noticeHalt (d : Debugger) : Debugger :=
  match d.machine.outcome? with
  | some outcome => { d with notice := .halted outcome }
  | none => d

def step (d : Debugger) : Debugger :=
  if !d.machine.isRunning then { d.noticeHalt with running := false }
  else
    let instruction? := d.machine.current?
    match d.machine.step with
    | .ok (seen, m) =>
      let d := { d with machine := m, notice := .stepped seen instruction? }
      if !d.machine.isRunning then { d.noticeHalt with running := false } else d
    | .error e => { d with notice := .failed e, running := false }

/-- Begins to run. At a breakpoint the first step is taken at once. -/
def run (d : Debugger) : Debugger :=
  let d := if d.atBreakpoint then d.step else d
  if d.machine.isRunning then { d with running := true, notice := .running }
  else { d with running := false }

/-- One step of a run, which ends before a breakpoint and at the halt. -/
def tick (d : Debugger) : Debugger :=
  if !d.running then d
  else if !d.machine.isRunning then { d.noticeHalt with running := false }
  else if d.atBreakpoint then { d with running := false, notice := .stoppedAt d.machine.label }
  else d.step

def tickBatch : Nat → Debugger → Debugger
  | 0, d => d
  | n + 1, d => if d.running then tickBatch n d.tick else d

def toggleBreakpoint (d : Debugger) : Debugger :=
  let label := d.machine.label
  if d.atBreakpoint then
    { d with breakpoints := d.breakpoints.erase label, notice := .breakpointRemoved label }
  else
    { d with breakpoints := d.breakpoints.insert label, notice := .breakpointSet label }

def reset (d : Debugger) : Debugger :=
  { d with machine := d.machine.reset, running := false, notice := .reset }

def setRunning (d : Debugger) (running : Bool) : Debugger :=
  { d with running := running }

def pause (d : Debugger) : Debugger :=
  { d with running := false, notice := .paused }

def scrollUp (d : Debugger) : Debugger :=
  { d with scroll := d.scroll - 1 }

def scrollDown (d : Debugger) : Debugger :=
  if d.scroll + 1 < d.machine.registers.size then { d with scroll := d.scroll + 1 } else d

def listing? (d : Debugger) : Option (List (Label × Instruction × Bool)) :=
  d.machine.program.definitions?.map fun defs =>
    defs.map fun (label, instruction) => (label, instruction, label == d.machine.label)

/-! ## Batches -/

@[simp] theorem tickBatch_zero (d : Debugger) : tickBatch 0 d = d := rfl

theorem tickBatch_of_not_running {d : Debugger} (h : d.running = false) (n : Nat) :
    tickBatch n d = d := by
  cases n <;> simp [tickBatch, h]

theorem tick_of_not_running {d : Debugger} (h : d.running = false) : d.tick = d := by
  simp [tick, h]

theorem tickBatch_succ (d : Debugger) (n : Nat) : tickBatch (n + 1) d = tickBatch n d.tick := by
  rw [tickBatch]
  split
  · rfl
  · next h =>
    have h : d.running = false := by simpa using h
    rw [tick_of_not_running h, tickBatch_of_not_running h]

theorem tickBatch_add (d : Debugger) (a b : Nat) :
    tickBatch (a + b) d = tickBatch b (tickBatch a d) := by
  induction a generalizing d with
  | zero => rw [Nat.zero_add, tickBatch_zero]
  | succ a ih => rw [Nat.add_right_comm, tickBatch_succ, ih, tickBatch_succ]

end Debugger

end CounterMachine
