import CounterMachine.Proofs.Debugger.Session
import CounterMachine.Proofs.Machine.Runs
import CounterMachine.Proofs.Source.Writable

/-!
# Breakpoints

The acts that run a program take steps of their own accord, and a breakpoint is
there to stop them.  `Debugger.visited` lists the labels at which steps were taken
between two moments of a session.

Ticks, one by one or in batches, never take a step at a breakpoint.  A run takes one
where it begins, to get off the breakpoint that it was stopped by.  It does not ask
whether it was stopped: a batch may have come to a breakpoint with its last step, and
a run called then leaves it although nothing has been said of it,
`run_leaves_pending_breakpoint`.

Main statement: a run called at a breakpoint is the only way past it,
`breakpoint_visited_iff`.
-/

namespace CounterMachine

namespace Debugger

/-- The labels of the steps that lead from the machine of one debugger to the machine
of another. -/
def visited (d d' : Debugger) : List Label :=
  (Machine.trace (d'.machine.steps - d.machine.steps) d.machine).map (·.label)

/-- The machine has taken some more steps, or none, and the breakpoints have stayed. -/
structure Onward (d d' : Debugger) : Prop where
  steps : d.machine.steps ≤ d'.machine.steps
  machine : d'.machine = Machine.next^[d'.machine.steps - d.machine.steps] d.machine
  breakpoints : d'.breakpoints = d.breakpoints

variable {d d' d'' : Debugger} {l : Label}

theorem length_visited (d d' : Debugger) :
    (d.visited d').length = d'.machine.steps - d.machine.steps := by
  rw [visited, List.length_map, Machine.length_trace]

theorem visited_of_machine_eq (h : d'.machine = d.machine) : d.visited d' = [] := by
  rw [visited, h, Nat.sub_self]
  rfl

theorem visited_of_advance_ok (ha : d.machine.advance = .ok d'.machine) :
    d.visited d' = [d.machine.label] := by
  rw [visited, Machine.steps_of_advance ha, Nat.add_sub_cancel_left]
  rfl

theorem onward_of_machine_eq (hm : d'.machine = d.machine)
    (hb : d'.breakpoints = d.breakpoints) : Onward d d' := by
  refine ⟨by rw [hm], ?_, hb⟩
  rw [hm, Nat.sub_self]
  rfl

theorem onward_of_advance_ok (hs : d.machine.status = .running)
    (ha : d.machine.advance = .ok d'.machine) (hb : d'.breakpoints = d.breakpoints) :
    Onward d d' := by
  have hsteps := Machine.steps_of_advance ha
  refine ⟨by omega, ?_, hb⟩
  rw [hsteps, Nat.add_sub_cancel_left]
  exact (Machine.next_of_advance_ok hs ha).symm

theorem Onward.trans (h : Onward d d') (h' : Onward d' d'') : Onward d d'' := by
  have hsum : d''.machine.steps - d.machine.steps
      = (d''.machine.steps - d'.machine.steps) + (d'.machine.steps - d.machine.steps) := by
    have := h.steps
    have := h'.steps
    omega
  refine ⟨Nat.le_trans h.steps h'.steps, ?_, h'.breakpoints.trans h.breakpoints⟩
  rw [hsum, Function.iterate_add_apply, ← h.machine]
  exact h'.machine

theorem Onward.visited_eq (h : Onward d d') (h' : Onward d' d'') :
    d.visited d'' = d.visited d' ++ d'.visited d'' := by
  have hsum : d''.machine.steps - d.machine.steps
      = (d'.machine.steps - d.machine.steps) + (d''.machine.steps - d'.machine.steps) := by
    have := h.steps
    have := h'.steps
    omega
  rw [visited, hsum, Machine.trace_add, List.map_append, ← h.machine]
  rfl

/-! ## Single steps -/

theorem Steps.onward (h : Steps d d') : Onward d d' := by
  cases h with
  | halted ho => exact onward_of_machine_eq rfl rfl
  | fails hs ha => exact onward_of_machine_eq rfl rfl
  | moves hs ha hm => exact onward_of_advance_ok hs ha rfl
  | halts hs ha ho => exact onward_of_advance_ok hs ha rfl

theorem Steps.mem_visited (h : Steps d d') (hl : l ∈ d.visited d') :
    d.machine.label = l ∧ d.machine.status = .running := by
  have hvisited : d.visited d' = []
      ∨ d.machine.status = .running ∧ d.visited d' = [d.machine.label] := by
    cases h with
    | halted ho => exact Or.inl (visited_of_machine_eq rfl)
    | fails hs ha => exact Or.inl (visited_of_machine_eq rfl)
    | moves hs ha hm => exact Or.inr ⟨hs, visited_of_advance_ok ha⟩
    | halts hs ha ho => exact Or.inr ⟨hs, visited_of_advance_ok ha⟩
  rcases hvisited with hnone | ⟨hs, hone⟩
  · rw [hnone] at hl
    cases hl
  · rw [hone] at hl
    exact ⟨(List.mem_singleton.1 hl).symm, hs⟩

theorem Steps.visited_eq (h : Steps d d')
    (hm : d.machine.program.EachRegister (· ≤ Registers.highest))
    (hs : d.machine.status = .running) : d.visited d' = [d.machine.label] := by
  obtain ⟨m, hok⟩ := Machine.exists_advance_eq_ok hm
  cases h with
  | halted ho => exact absurd hs (Machine.not_running_of_outcome ho)
  | fails _ ha =>
      rw [hok] at ha
      cases ha
  | moves _ ha _ => exact visited_of_advance_ok ha
  | halts _ ha _ => exact visited_of_advance_ok ha

/-! ## Runs, ticks and batches -/

theorem atBreakpoint_iff : d.atBreakpoint = true ↔ d.machine.label ∈ d.breakpoints :=
  Std.ExtTreeSet.mem_iff_contains.symm

theorem machine_resume (d : Debugger) : d.resume.machine = d.machine := by
  unfold resume
  split <;> rfl

theorem breakpoints_resume (d : Debugger) : d.resume.breakpoints = d.breakpoints := by
  unfold resume
  split <;> rfl

theorem onward_resume (d : Debugger) : Onward d d.resume :=
  onward_of_machine_eq (machine_resume d) (breakpoints_resume d)

theorem onward_run (d : Debugger) : Onward d d.run := by
  rw [run_eq]
  split
  · exact (steps_step d).onward.trans (onward_resume d.step)
  · exact onward_resume d

/-- A run takes the step at the breakpoint where it begins, and no other. -/
theorem visited_run (d : Debugger) :
    d.visited d.run = if d.atBreakpoint then d.visited d.step else [] := by
  rw [run_eq]
  split
  · rw [(steps_step d).onward.visited_eq (onward_resume d.step),
      visited_of_machine_eq (machine_resume d.step), List.append_nil]
  · exact visited_of_machine_eq (machine_resume d)

theorem machine_noticeHalt (d : Debugger) : d.noticeHalt.machine = d.machine := by
  unfold noticeHalt
  split <;> rfl

theorem breakpoints_noticeHalt (d : Debugger) : d.noticeHalt.breakpoints = d.breakpoints := by
  unfold noticeHalt
  split <;> rfl

theorem tick_cases (d : Debugger) :
    d.tick.machine = d.machine ∧ d.tick.breakpoints = d.breakpoints
      ∨ d.running = true ∧ d.atBreakpoint = false ∧ d.tick = d.step := by
  unfold tick
  split
  · exact Or.inl ⟨rfl, rfl⟩
  · next hrunning =>
    split
    · exact Or.inl ⟨machine_noticeHalt d, breakpoints_noticeHalt d⟩
    · split
      · exact Or.inl ⟨rfl, rfl⟩
      · next hbreakpoint => exact Or.inr ⟨by simpa using hrunning, by simpa using hbreakpoint, rfl⟩

theorem onward_tick (d : Debugger) : Onward d d.tick := by
  rcases tick_cases d with ⟨hm, hb⟩ | ⟨-, -, hstep⟩
  · exact onward_of_machine_eq hm hb
  · rw [hstep]
    exact (steps_step d).onward

theorem onward_tickBatch (d : Debugger) (n : Nat) : Onward d (tickBatch n d) := by
  induction n generalizing d with
  | zero => exact onward_of_machine_eq rfl rfl
  | succ n ih =>
      rw [tickBatch_succ]
      exact (onward_tick d).trans (ih d.tick)

theorem not_mem_breakpoints_of_tick (hl : l ∈ d.visited d.tick) : l ∉ d.breakpoints := by
  rcases tick_cases d with ⟨hm, -⟩ | ⟨-, hbreakpoint, hstep⟩
  · rw [visited_of_machine_eq hm] at hl
    cases hl
  · rw [hstep] at hl
    obtain ⟨rfl, -⟩ := (steps_step d).mem_visited hl
    rw [← atBreakpoint_iff, hbreakpoint]
    exact Bool.false_ne_true

theorem not_mem_breakpoints_of_tickBatch {n : Nat} (hl : l ∈ d.visited (tickBatch n d)) :
    l ∉ d.breakpoints := by
  induction n generalizing d with
  | zero =>
      rw [tickBatch_zero, visited_of_machine_eq rfl] at hl
      cases hl
  | succ n ih =>
      have htick := onward_tick d
      rw [tickBatch_succ, htick.visited_eq (onward_tickBatch d.tick n)] at hl
      rcases List.mem_append.1 hl with hfirst | hrest
      · exact not_mem_breakpoints_of_tick hfirst
      · rw [← htick.breakpoints]
        exact ih hrest

/-! ## Breakpoints in a session -/

variable {act : Act}

theorem onward_perform (hact : act = .run ∨ act = .tick ∨ ∃ n, act = .tickBatch n) :
    Onward d (d.perform act) := by
  rcases hact with rfl | rfl | ⟨n, rfl⟩
  · exact onward_run d
  · exact onward_tick d
  · exact onward_tickBatch d n

theorem mem_visited_perform (hact : act = .run ∨ act = .tick ∨ ∃ n, act = .tickBatch n)
    (hl : l ∈ d.visited (d.perform act)) (hb : l ∈ d.breakpoints) :
    act = .run ∧ d.machine.label = l ∧ d.machine.status = .running := by
  rcases hact with rfl | rfl | ⟨n, rfl⟩
  · have hrun : l ∈ d.visited d.run := hl
    rw [visited_run] at hrun
    split at hrun
    · exact ⟨rfl, (steps_step d).mem_visited hrun⟩
    · cases hrun
  · exact absurd hb (not_mem_breakpoints_of_tick hl)
  · exact absurd hb (not_mem_breakpoints_of_tickBatch hl)

theorem label_mem_visited_run (hm : d.machine.program.EachRegister (· ≤ Registers.highest))
    (hb : d.machine.label ∈ d.breakpoints) (hs : d.machine.status = .running) :
    d.machine.label ∈ d.visited d.run := by
  rw [visited_run, if_pos (atBreakpoint_iff.2 hb), (steps_step d).visited_eq hm hs]
  exact List.mem_singleton_self _

/-- **Only a run gets past a breakpoint, and only past the one it is called at.**  In
any session, a run, a tick or a batch of ticks takes a step at a breakpoint just when
it is a run and the machine waits there.  Unless the run was called while the debugger
was still running, the debugger had been stopped before. -/
theorem breakpoint_visited_iff {source : String} {setup : Setup}
    (hload : Setup.load source = .ok setup) (acts : List Act) {act : Act}
    (hact : act = .run ∨ act = .tick ∨ ∃ n, act = .tickBatch n) :
    let d := (ofSetup setup).performAll acts
    let d' := d.perform act
    d'.machine = Machine.next^[(d.visited d').length] d.machine
      ∧ (∀ l, (l ∈ d.visited d' ∧ l ∈ d.breakpoints) ↔
          act = .run ∧ d.machine.label = l ∧ l ∈ d.breakpoints ∧ d.machine.status = .running)
      ∧ ((act = .run → d.running = true → d.machine.label ∉ d.breakpoints) →
          ∀ l ∈ d.visited d', l ∈ d.breakpoints → d.running = false ∧ d.machine.label = l) := by
  intro d d'
  have hrange : d.machine.program.EachRegister (· ≤ Registers.highest) := by
    rw [((onRun_ofSetup setup).performAll acts).program]
    exact (Setup.writable_of_load hload).registers
  have hvisited : ∀ l ∈ d.visited d', l ∈ d.breakpoints →
      act = .run ∧ d.machine.label = l ∧ d.machine.status = .running :=
    fun l hl hb => mem_visited_perform hact hl hb
  refine ⟨?_, fun l => ⟨fun ⟨hl, hb⟩ => ?_, ?_⟩, fun hstopped l hl hb => ?_⟩
  · rw [length_visited]
    exact (onward_perform hact).machine
  · obtain ⟨hrun, hlabel, hs⟩ := hvisited l hl hb
    exact ⟨hrun, hlabel, hb, hs⟩
  · rintro ⟨rfl, rfl, hb, hs⟩
    exact ⟨label_mem_visited_run hrange hb hs, hb⟩
  · obtain ⟨hrun, hlabel, -⟩ := hvisited l hl hb
    have hnot : ¬ d.running = true := fun hrunning => hstopped hrun hrunning (hlabel ▸ hb)
    exact ⟨Bool.eq_false_iff.2 hnot, hlabel⟩

/-- A batch stops at a breakpoint, and the next run takes the step that it was stopped
before. -/
theorem breakpoint_visited_iff_stopped :
    let setup : Setup := ⟨⟨⟨"a"⟩, .ofList [0]⟩, .ofDefinitions
      [(⟨"a"⟩, .increment 0 ⟨"b"⟩), (⟨"b"⟩, .increment 0 ⟨"c"⟩), (⟨"c"⟩, .halt)]⟩
    let d := (ofSetup setup).performAll [.step, .toggleBreakpoint, .reset, .run, .tickBatch 64]
    Setup.load "a, 0\na: inc(r0), b\nb: inc(r0), c\nc: halt\n" = .ok setup
      ∧ d.notice = .stoppedAt ⟨"b"⟩
      ∧ ⟨"b"⟩ ∈ d.visited d.run ∧ ⟨"b"⟩ ∈ d.breakpoints
      ∧ d.running = false ∧ d.machine.label = ⟨"b"⟩ := by
  intro setup d
  have hload : Setup.load "a, 0\na: inc(r0), b\nb: inc(r0), c\nc: halt\n" = .ok setup := by
    decide +kernel
  have hnotice : d.notice = .stoppedAt ⟨"b"⟩ := by
    decide +kernel
  have hlabel : d.machine.label = ⟨"b"⟩ := by
    decide +kernel
  have hbreakpoint : (⟨"b"⟩ : Label) ∈ d.breakpoints := by
    decide +kernel
  have hstatus : d.machine.status = .running := by
    decide +kernel
  have hrunning : d.running = false := by
    decide +kernel
  obtain ⟨-, hiff, hstopped⟩ := breakpoint_visited_iff hload
    [.step, .toggleBreakpoint, .reset, .run, .tickBatch 64] (Or.inl (Eq.refl Act.run))
  have hvisited : (⟨"b"⟩ : Label) ∈ d.visited d.run :=
    ((hiff ⟨"b"⟩).2 ⟨rfl, hlabel, hbreakpoint, hstatus⟩).1
  have hwaits := hstopped (fun _ h => absurd (hrunning.symm.trans h) Bool.false_ne_true) ⟨"b"⟩
    hvisited hbreakpoint
  exact ⟨hload, hnotice, hvisited, hbreakpoint, hwaits⟩

/-- A tick comes to a breakpoint and leaves it to the next one to stop there; a run
called in between takes the step at the breakpoint while the debugger is running. -/
theorem run_leaves_pending_breakpoint :
    let setup : Setup := ⟨⟨⟨"a"⟩, .ofList [0]⟩, .ofDefinitions
      [(⟨"a"⟩, .increment 0 ⟨"b"⟩), (⟨"b"⟩, .increment 0 ⟨"c"⟩), (⟨"c"⟩, .halt)]⟩
    let d := (ofSetup setup).performAll [.step, .toggleBreakpoint, .reset, .run, .tick]
    Setup.load "a, 0\na: inc(r0), b\nb: inc(r0), c\nc: halt\n" = .ok setup
      ∧ d.machine.program.get? ⟨"b"⟩ = some (.increment 0 ⟨"c"⟩)
      ∧ ⟨"b"⟩ ∈ d.visited (d.perform .run) ∧ ⟨"b"⟩ ∈ d.breakpoints
      ∧ ¬ (d.running = false ∧ d.machine.label = ⟨"b"⟩) := by
  decide +kernel

end Debugger

end CounterMachine
