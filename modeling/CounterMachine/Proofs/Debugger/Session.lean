import CounterMachine.Debugger.Basic
import CounterMachine.Proofs.Machine.Halting
import Mathlib.Control.Monad.Basic

/-!
# Sessions of the debugger

A session is a row of acts in any order.  `Debugger.Steps` says once what a step of
the debugger can do; the other acts take such steps, go back to the start, or leave
the machine alone.

`OnRun` is the invariant of a session: the machine is on the run of its setup, as
far on as its step counter says, and a halt on the notice line is the halt of the
machine.  Main statement: every session keeps it, and every halt it reports is the
one the program is executed to, `session_onRun`.
-/

namespace CounterMachine

namespace Debugger

inductive Act where
  | step
  | run
  | tick
  | tickBatch (ticks : Nat)
  | toggleBreakpoint
  | reset
  | setRunning (running : Bool)
deriving DecidableEq

def perform (d : Debugger) : Act → Debugger
  | .step => d.step
  | .run => d.run
  | .tick => d.tick
  | .tickBatch ticks => tickBatch ticks d
  | .toggleBreakpoint => d.toggleBreakpoint
  | .reset => d.reset
  | .setRunning running => d.setRunning running

def performAll (d : Debugger) (acts : List Act) : Debugger :=
  acts.foldl perform d

/-! ## What a step of the debugger does -/

inductive Steps (d : Debugger) : Debugger → Prop
  | halted {o : Outcome} (ho : d.machine.outcome? = some o) :
      Steps d { d with running := false, notice := .halted o }
  | fails {f : Fault} (hs : d.machine.status = .running) (ha : d.machine.advance = .error f) :
      Steps d { d with running := false, notice := .failed (.fault f) }
  | moves {m : Machine} (hs : d.machine.status = .running) (ha : d.machine.advance = .ok m)
      (hm : m.status = .running) :
      Steps d { d with
        machine := m, notice := .stepped d.machine.snapshot d.machine.current? }
  | halts {m : Machine} {o : Outcome} (hs : d.machine.status = .running)
      (ha : d.machine.advance = .ok m) (ho : m.outcome? = some o) :
      Steps d { d with machine := m, running := false, notice := .halted o }

theorem noticeHalt_of_outcome {d : Debugger} {o : Outcome} (h : d.machine.outcome? = some o) :
    d.noticeHalt = { d with notice := .halted o } := by
  rw [noticeHalt, h]

theorem steps_step (d : Debugger) : Steps d d.step := by
  by_cases hs : d.machine.status = .running
  · have hrunning : (!d.machine.isRunning) = false := by
      rw [Machine.isRunning_iff.2 hs, Bool.not_true]
    cases ha : d.machine.advance with
    | error f =>
        rw [step, hrunning, Machine.step_of_advance_error hs ha]
        exact .fails hs ha
    | ok m =>
        rw [step, hrunning, Machine.step_of_advance_ok hs ha]
        by_cases hm : m.status = .running
        · simp only [Machine.isRunning_iff.2 hm, Bool.not_true, Bool.false_eq_true, if_false]
          exact .moves hs ha hm
        · obtain ⟨o, ho⟩ := Machine.exists_outcome_of_not_running hm
          simp only [mt Machine.isRunning_iff.1 hm, Bool.not_false, Bool.false_eq_true, if_false,
            if_true]
          rw [noticeHalt_of_outcome ho]
          exact .halts hs ha ho
  · obtain ⟨o, ho⟩ := Machine.exists_outcome_of_not_running hs
    have hstopped : d.machine.isRunning = false := Bool.eq_false_iff.2 (mt Machine.isRunning_iff.1 hs)
    rw [step, hstopped, noticeHalt_of_outcome ho]
    exact .halted ho

/-- A run from where the machine is, without the step off a breakpoint. -/
def resume (d : Debugger) : Debugger :=
  if d.machine.isRunning then { d with running := true, notice := .running }
  else { d with running := false }

theorem run_eq (d : Debugger) : d.run = if d.atBreakpoint then d.step.resume else d.resume := by
  unfold run
  split <;> rfl

/-! ## The invariant of a session -/

/-- The machine is on the run of the setup, and a halt that is reported is its own. -/
structure OnRun (setup : Setup) (d : Debugger) : Prop where
  machine : d.machine = Machine.next^[d.machine.steps] setup.machine
  notice : ∀ o, d.notice = .halted o → d.machine.outcome? = some o

variable {setup : Setup} {d : Debugger}

theorem onRun_ofSetup (setup : Setup) : OnRun setup (ofSetup setup) where
  machine := rfl
  notice := by
    intro o h
    cases h

theorem OnRun.of_machine_eq (h : OnRun setup d) {d' : Debugger} (hm : d'.machine = d.machine)
    (hn : d'.notice = d.notice ∨ ∀ o, d'.notice ≠ .halted o) : OnRun setup d' := by
  constructor
  · rw [hm]
    exact h.machine
  · intro o ho
    rcases hn with hn | hn
    · rw [hm]
      exact h.notice o (hn ▸ ho)
    · exact absurd ho (hn o)

theorem OnRun.of_steps (h : OnRun setup d) {d' : Debugger} (hd : Steps d d') :
    OnRun setup d' := by
  cases hd with
  | halted ho =>
      refine ⟨h.machine, fun o h' => ?_⟩
      cases h'
      exact ho
  | fails hs ha => exact h.of_machine_eq rfl (Or.inr fun o => by simp)
  | moves hs ha hm =>
      refine ⟨Machine.iterate_next_of_advance_ok h.machine hs ha, fun o h' => ?_⟩
      cases h'
  | halts hs ha ho =>
      refine ⟨Machine.iterate_next_of_advance_ok h.machine hs ha, fun o h' => ?_⟩
      cases h'
      exact ho

theorem OnRun.step (h : OnRun setup d) : OnRun setup d.step :=
  h.of_steps (steps_step d)

theorem OnRun.setRunning (h : OnRun setup d) (running : Bool) :
    OnRun setup (d.setRunning running) :=
  h.of_machine_eq rfl (Or.inl rfl)

theorem OnRun.resume (h : OnRun setup d) : OnRun setup d.resume := by
  unfold Debugger.resume
  split
  · exact h.of_machine_eq rfl (Or.inr fun o => by simp)
  · exact h.of_machine_eq rfl (Or.inl rfl)

theorem OnRun.run (h : OnRun setup d) : OnRun setup d.run := by
  rw [run_eq]
  split
  · exact h.step.resume
  · exact h.resume

theorem OnRun.tick (h : OnRun setup d) : OnRun setup d.tick := by
  unfold Debugger.tick
  split
  · exact h
  · split
    · next hm =>
      have hs : d.machine.status ≠ .running := fun hs => by
        rw [Machine.isRunning_iff.2 hs] at hm
        cases hm
      obtain ⟨o, ho⟩ := Machine.exists_outcome_of_not_running hs
      rw [noticeHalt_of_outcome ho]
      refine ⟨h.machine, fun o' h' => ?_⟩
      cases h'
      exact ho
    · split
      · exact h.of_machine_eq rfl (Or.inr fun o => by simp)
      · exact h.step

theorem OnRun.tickBatch (h : OnRun setup d) (ticks : Nat) :
    OnRun setup (Debugger.tickBatch ticks d) := by
  induction ticks generalizing d with
  | zero => exact h
  | succ ticks ih =>
      rw [tickBatch_succ]
      exact ih h.tick

theorem machine_toggleBreakpoint (d : Debugger) : d.toggleBreakpoint.machine = d.machine := by
  unfold toggleBreakpoint
  split <;> rfl

theorem OnRun.toggleBreakpoint (h : OnRun setup d) : OnRun setup d.toggleBreakpoint := by
  unfold Debugger.toggleBreakpoint
  split
  · exact h.of_machine_eq rfl (Or.inr fun o => by simp)
  · exact h.of_machine_eq rfl (Or.inr fun o => by simp)

theorem OnRun.machine_reset (h : OnRun setup d) : d.machine.reset = setup.machine := by
  rw [h.machine, Machine.reset_iterate_next]
  rfl

theorem OnRun.reset (h : OnRun setup d) : OnRun setup d.reset := by
  have hstart := h.machine_reset
  constructor
  · show d.machine.reset = Machine.next^[d.machine.reset.steps] setup.machine
    rw [hstart]
    rfl
  · intro o ho
    cases ho

theorem OnRun.perform (h : OnRun setup d) (act : Act) : OnRun setup (d.perform act) := by
  cases act with
  | step => exact h.step
  | run => exact h.run
  | tick => exact h.tick
  | tickBatch ticks => exact h.tickBatch ticks
  | toggleBreakpoint => exact h.toggleBreakpoint
  | reset => exact h.reset
  | setRunning running => exact h.setRunning running

theorem OnRun.performAll (h : OnRun setup d) (acts : List Act) :
    OnRun setup (d.performAll acts) := by
  induction acts generalizing d with
  | nil => exact h
  | cons act acts ih => exact ih (h.perform act)

theorem OnRun.program (h : OnRun setup d) : d.machine.program = setup.program := by
  rw [h.machine]
  exact Machine.program_iterate_next setup.machine _

/-- The halt of a machine on the run is the one its program is executed to. -/
theorem OnRun.execute (h : OnRun setup d) {o : Outcome} (ho : d.machine.outcome? = some o)
    (hsteps : d.machine.steps ≤ stepLimit) : ∃ events, setup.execute = .ok (o, events) := by
  have hcount : (Machine.next^[d.machine.steps] setup.machine).steps
      = setup.machine.steps + d.machine.steps := by
    rw [← h.machine]
    exact (Nat.zero_add _).symm
  have hhalts : Machine.HaltsIn setup.machine d.machine.steps o :=
    ⟨fun i hi => Machine.running_of_steps_eq hcount hi, h.machine ▸ ho⟩
  exact ⟨_, Program.execute_eq_ok_iff.2 ⟨_, hsteps, hhalts, rfl⟩⟩

/-- **The debugger never changes the computation.**  After any acts in any order its
machine is the one of the setup after as many calls of `step` as its counter says, so
that none of the calls was refused; acts that come to the same count come to the same
machine; and a halt that the debugger reports is the one that the program is executed
to, unless its steps go beyond the counter. -/
theorem session_onRun (setup : Setup) (acts : List Act) :
    let d := (ofSetup setup).performAll acts
    d.machine = Machine.next^[d.machine.steps] setup.machine
      ∧ (∀ acts', ((ofSetup setup).performAll acts').machine.steps = d.machine.steps →
          ((ofSetup setup).performAll acts').machine = d.machine)
      ∧ ∀ o, d.notice = .halted o → d.machine.outcome? = some o
        ∧ (d.machine.steps ≤ stepLimit → ∃ events, setup.execute = .ok (o, events)) := by
  intro d
  have h : OnRun setup d := (onRun_ofSetup setup).performAll acts
  refine ⟨h.machine, fun acts' hsteps => ?_, fun o ho => ?_⟩
  · have h' := (onRun_ofSetup setup).performAll acts'
    rw [h'.machine, hsteps, ← h.machine]
  · have hout := h.notice o ho
    exact ⟨hout, h.execute hout⟩

/-- A run stopped by a breakpoint, begun again from the start and taken past it. -/
theorem session_onRun_breakpoint :
    let setup : Setup :=
      ⟨⟨⟨"a"⟩, .ofList [1]⟩, .ofDefinitions [(⟨"a"⟩, .decrement 0 ⟨"a"⟩ ⟨"b"⟩), (⟨"b"⟩, .halt)]⟩
    let d := (ofSetup setup).performAll
      [.step, .toggleBreakpoint, .reset, .run, .tickBatch 64, .toggleBreakpoint, .setRunning true,
        .tick, .tickBatch 64]
    let o : Outcome := ⟨.proper, 3, ⟨"b"⟩, .ofList [0]⟩
    Setup.load "a, 1\na: dec(r0), a, b\nb: halt\n" = .ok setup
      ∧ d.notice = .halted o ∧ d.machine.steps ≤ stepLimit
      ∧ d.machine = Machine.next^[3] setup.machine
      ∧ ((ofSetup setup).performAll [.step, .step, .step]).machine = d.machine
      ∧ ∃ events, setup.execute = .ok (o, events) := by
  intro setup d o
  have hload : Setup.load "a, 1\na: dec(r0), a, b\nb: halt\n" = .ok setup := by
    decide +kernel
  have hnotice : d.notice = .halted o := by
    decide +kernel
  have hcount : d.machine.steps = 3 := by
    decide +kernel
  have hsame : ((ofSetup setup).performAll [.step, .step, .step]).machine.steps
      = d.machine.steps := by
    decide +kernel
  have hsteps : d.machine.steps ≤ stepLimit := by
    rw [hcount]
    decide
  obtain ⟨hrun, hacts, hhalt⟩ := session_onRun setup
    [.step, .toggleBreakpoint, .reset, .run, .tickBatch 64, .toggleBreakpoint, .setRunning true,
      .tick, .tickBatch 64]
  exact ⟨hload, hnotice, hsteps, hcount ▸ hrun, hacts _ hsame, (hhalt o hnotice).2 hsteps⟩

end Debugger

end CounterMachine
