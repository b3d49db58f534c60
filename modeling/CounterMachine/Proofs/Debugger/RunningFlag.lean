import CounterMachine.Proofs.Debugger.Session
import CounterMachine.Proofs.Source.Writable

/-!
# The running flag

The debugger has a flag of its own beside the status of its machine, and several acts
write it.  `Consistent` is what they keep between them: the flag is set only while the
machine runs, and no step has failed.  `TellsHalt` is what is owed to a machine that has
halted, and every step of the debugger brings it about, see `Steps.tellsHalt`.

* `Consistent.performAll`: the invariant holds in every session that does not set the
  flag by hand;
* `performAll_of_halted`: only a reset takes the debugger away from a halt;
* `tellsHalt_perform`: the act that halts the machine says so.

Main statement: flag, machine and notice agree in every session, `running_consistent`.
-/

namespace CounterMachine

namespace Debugger

/-- The flag is set only while the machine runs, and no step has failed. -/
structure Consistent (d : Debugger) : Prop where
  registers : d.machine.program.EachRegister (· ≤ Registers.highest)
  running : d.running = true → d.machine.status = .running
  notice : ∀ e, d.notice ≠ .failed e

def TellsHalt (d : Debugger) : Prop :=
  ∀ o, d.machine.outcome? = some o → d.notice = .halted o

variable {d d' : Debugger} {act : Act}

theorem tellsHalt_of_running (h : d.machine.status = .running) : TellsHalt d :=
  fun _ ho => absurd h (Machine.not_running_of_outcome ho)

theorem Steps.tellsHalt (h : Steps d d') : TellsHalt d' := by
  cases h with
  | halted ho =>
      intro o ho'
      rw [Option.some.inj (ho'.symm.trans ho)]
  | fails hs ha => exact tellsHalt_of_running hs
  | moves hs ha hm => exact tellsHalt_of_running hm
  | halts hs ha ho =>
      intro o ho'
      rw [Option.some.inj (ho'.symm.trans ho)]

theorem noticeHalt_of_not_running (hs : d.machine.status ≠ .running) :
    ∃ o, d.machine.outcome? = some o ∧ d.noticeHalt = { d with notice := .halted o } := by
  obtain ⟨o, ho⟩ := Machine.exists_outcome_of_not_running hs
  exact ⟨o, ho, noticeHalt_of_outcome ho⟩

theorem running_toggleBreakpoint (d : Debugger) : d.toggleBreakpoint.running = d.running := by
  unfold toggleBreakpoint
  split <;> rfl

/-! ## The invariant -/

namespace Consistent

theorem not_running (h : Consistent d) (hs : d.machine.status ≠ .running) : d.running = false :=
  Bool.eq_false_iff.2 (mt h.running hs)

theorem of_cleared (h : Consistent d) (hp : d'.machine.program = d.machine.program)
    (hr : d'.running = false) (hn : d'.notice = d.notice ∨ ∀ e, d'.notice ≠ .failed e) :
    Consistent d' where
  registers := hp ▸ h.registers
  running hrunning := absurd (hr.symm.trans hrunning) Bool.false_ne_true
  notice := by
    rcases hn with hn | hn
    · rw [hn]
      exact h.notice
    · exact hn

/-- A step cannot fail: it would need a register that is too high. -/
theorem of_steps (h : Consistent d) (hd : Steps d d') : Consistent d' := by
  cases hd with
  | halted ho => exact h.of_cleared rfl rfl (Or.inr fun e => by simp)
  | fails hs ha =>
      obtain ⟨m, hok⟩ := Machine.exists_advance_eq_ok h.registers
      rw [hok] at ha
      cases ha
  | moves hs ha hm =>
      have hprogram := (Machine.advance_eq_ok_iff.1 ha).program_eq
      exact ⟨hprogram ▸ h.registers, fun _ => hm, fun e => by simp⟩
  | halts hs ha ho =>
      have hprogram := (Machine.advance_eq_ok_iff.1 ha).program_eq
      exact h.of_cleared hprogram rfl (Or.inr fun e => by simp)

theorem step (h : Consistent d) : Consistent d.step :=
  h.of_steps (steps_step d)

theorem resume (h : Consistent d) : Consistent d.resume := by
  unfold Debugger.resume
  split
  · next hm => exact ⟨h.registers, fun _ => Machine.isRunning_iff.1 hm, fun e => by simp⟩
  · exact h.of_cleared rfl rfl (Or.inl rfl)

theorem run (h : Consistent d) : Consistent d.run := by
  rw [run_eq]
  split
  · exact h.step.resume
  · exact h.resume

theorem tick (h : Consistent d) : Consistent d.tick := by
  unfold Debugger.tick
  split
  · exact h
  · split
    · next hm =>
      have hs : d.machine.status ≠ .running := by
        rw [Ne, ← Machine.isRunning_iff]
        simpa using hm
      obtain ⟨o, -, hnotice⟩ := noticeHalt_of_not_running hs
      rw [hnotice]
      exact h.of_cleared rfl rfl (Or.inr fun e => by simp)
    · split
      · exact h.of_cleared rfl rfl (Or.inr fun e => by simp)
      · exact h.step

theorem tickBatch (h : Consistent d) (n : Nat) : Consistent (Debugger.tickBatch n d) := by
  induction n generalizing d with
  | zero => exact h
  | succ n ih =>
      rw [tickBatch_succ]
      exact ih h.tick

theorem toggleBreakpoint (h : Consistent d) : Consistent d.toggleBreakpoint := by
  unfold Debugger.toggleBreakpoint
  split
  · exact ⟨h.registers, h.running, fun e => by simp⟩
  · exact ⟨h.registers, h.running, fun e => by simp⟩

theorem perform (h : Consistent d) (hact : act ≠ .setRunning true) :
    Consistent (d.perform act) := by
  cases act with
  | step => exact h.step
  | run => exact h.run
  | tick => exact h.tick
  | tickBatch n => exact h.tickBatch n
  | toggleBreakpoint => exact h.toggleBreakpoint
  | reset => exact h.of_cleared rfl rfl (Or.inr fun e => Notice.noConfusion)
  | setRunning running =>
      cases running with
      | true => exact absurd rfl hact
      | false => exact h.of_cleared rfl rfl (Or.inl rfl)

theorem performAll (h : Consistent d) {acts : List Act} (hacts : Act.setRunning true ∉ acts) :
    Consistent (d.performAll acts) := by
  induction acts generalizing d with
  | nil => exact h
  | cons act acts ih =>
      obtain ⟨hact, hrest⟩ := not_or.1 (mt List.mem_cons.2 hacts)
      exact ih (h.perform (Ne.symm hact)) hrest

end Consistent

theorem consistent_ofSetup {setup : Setup}
    (h : setup.program.EachRegister (· ≤ Registers.highest)) : Consistent (ofSetup setup) where
  registers := h
  running hrunning := by cases hrunning
  notice e he := by cases he

/-! ## Halts -/

theorem perform_of_halted (hs : d.machine.status ≠ .running) (hr : d.running = false)
    (hset : act ≠ .setRunning true) (hreset : act ≠ .reset) :
    (d.perform act).machine = d.machine ∧ (d.perform act).running = false := by
  have hstep : d.step.machine = d.machine ∧ d.step.running = false := by
    have hd := steps_step d
    generalize d.step = d' at hd
    cases hd with
    | halted ho => exact ⟨rfl, rfl⟩
    | fails hs' => exact absurd hs' hs
    | moves hs' => exact absurd hs' hs
    | halts hs' => exact absurd hs' hs
  have hresume {d' : Debugger} (hm : d'.machine = d.machine) :
      d'.resume.machine = d.machine ∧ d'.resume.running = false := by
    have hnot : ¬ d'.machine.isRunning = true := by
      rw [hm, Machine.isRunning_iff]
      exact hs
    rw [resume, if_neg hnot]
    exact ⟨hm, rfl⟩
  cases act with
  | step => exact hstep
  | run =>
      change d.run.machine = d.machine ∧ d.run.running = false
      rw [run_eq]
      split
      · exact hresume hstep.1
      · exact hresume rfl
  | tick =>
      change d.tick.machine = d.machine ∧ d.tick.running = false
      rw [tick_of_not_running hr]
      exact ⟨rfl, hr⟩
  | tickBatch n =>
      change (tickBatch n d).machine = d.machine ∧ (tickBatch n d).running = false
      rw [tickBatch_of_not_running hr]
      exact ⟨rfl, hr⟩
  | toggleBreakpoint =>
      exact ⟨machine_toggleBreakpoint d, (running_toggleBreakpoint d).trans hr⟩
  | reset => exact absurd rfl hreset
  | setRunning running =>
      cases running with
      | true => exact absurd rfl hset
      | false => exact ⟨rfl, rfl⟩

theorem performAll_of_halted (hs : d.machine.status ≠ .running) (hr : d.running = false)
    {acts : List Act} (hset : Act.setRunning true ∉ acts) (hreset : Act.reset ∉ acts) :
    (d.performAll acts).machine = d.machine ∧ (d.performAll acts).running = false := by
  induction acts generalizing d with
  | nil => exact ⟨rfl, hr⟩
  | cons act acts ih =>
      obtain ⟨hset, hsets⟩ := not_or.1 (mt List.mem_cons.2 hset)
      obtain ⟨hreset, hresets⟩ := not_or.1 (mt List.mem_cons.2 hreset)
      obtain ⟨hm, hr'⟩ := perform_of_halted hs hr (Ne.symm hset) (Ne.symm hreset)
      have hrest := ih (hm ▸ hs) hr' hsets hresets
      rw [hm] at hrest
      exact hrest

theorem TellsHalt.resume (h : TellsHalt d) : TellsHalt d.resume := by
  unfold Debugger.resume
  split
  · next hm => exact tellsHalt_of_running (Machine.isRunning_iff.1 hm)
  · exact h

theorem tellsHalt_tick (hs : d.machine.status = .running) : TellsHalt d.tick := by
  have hm : d.machine.isRunning = true := Machine.isRunning_iff.2 hs
  unfold tick
  split
  · exact tellsHalt_of_running hs
  · rw [if_neg (by simp [hm])]
    split
    · exact tellsHalt_of_running hs
    · exact (steps_step d).tellsHalt

theorem tellsHalt_tickBatch (h : Consistent d) (hs : d.machine.status = .running) (n : Nat) :
    TellsHalt (tickBatch n d) := by
  induction n generalizing d with
  | zero => exact tellsHalt_of_running hs
  | succ n ih =>
      rw [tickBatch_succ]
      by_cases hs' : d.tick.machine.status = .running
      · exact ih h.tick hs'
      · rw [tickBatch_of_not_running (h.tick.not_running hs')]
        exact tellsHalt_tick hs

theorem tellsHalt_perform (h : Consistent d) (hs : d.machine.status = .running) (act : Act) :
    TellsHalt (d.perform act) := by
  cases act with
  | step => exact (steps_step d).tellsHalt
  | run =>
      change TellsHalt d.run
      rw [run_eq]
      split
      · exact (steps_step d).tellsHalt.resume
      · exact (tellsHalt_of_running hs).resume
  | tick => exact tellsHalt_tick hs
  | tickBatch n => exact tellsHalt_tickBatch h hs n
  | toggleBreakpoint =>
      have hstatus := congrArg Machine.status (machine_toggleBreakpoint d)
      exact tellsHalt_of_running (hstatus.trans hs)
  | reset => exact tellsHalt_of_running rfl
  | setRunning running => exact tellsHalt_of_running hs

/-- **Flag, machine and notice agree.**  In any session with a loaded program that does not
set the flag by hand, the flag is set only while the machine runs.  Once the machine has
halted, nothing but a reset changes it or sets the flag.  The act that halts the machine,
and every step called after that, leaves a notice of the kind of the halt, the last label
and the number of steps.  No step is refused while the machine runs, and none has failed. -/
theorem running_consistent {source : String} {setup : Setup}
    (hload : Setup.load source = .ok setup) {acts : List Act}
    (hacts : Act.setRunning true ∉ acts) :
    let d := (ofSetup setup).performAll acts
    (d.running = true → d.machine.status = .running)
      ∧ (d.machine.status ≠ .running →
          ∀ acts', Act.setRunning true ∉ acts' → Act.reset ∉ acts' →
            (d.performAll acts').machine = d.machine ∧ (d.performAll acts').running = false)
      ∧ (∀ act o, act = .step ∨ d.machine.status = .running →
          (d.perform act).machine.outcome? = some o →
          (d.perform act).notice.text = o.kind.title ++ " at " ++ o.label.text ++ " after "
            ++ o.stepCount.repr ++ " steps")
      ∧ (d.machine.status = .running → ∃ m, d.machine.step = .ok (d.machine.snapshot, m))
      ∧ ∀ e, d.notice ≠ .failed e := by
  intro d
  have h : Consistent d :=
    (consistent_ofSetup (Setup.writable_of_load hload).registers).performAll hacts
  refine ⟨h.running, fun hs acts' hset hreset => ?_, fun act o hact ho => ?_, fun hs => ?_,
    h.notice⟩
  · exact performAll_of_halted hs (h.not_running hs) hset hreset
  · have htells : TellsHalt (d.perform act) := by
      rcases hact with rfl | hs
      · exact (steps_step d).tellsHalt
      · exact tellsHalt_perform h hs act
    rw [htells o ho]
    rfl
  · obtain ⟨m, ha⟩ := Machine.exists_advance_eq_ok h.registers
    exact ⟨m, Machine.step_of_advance_ok hs ha⟩

/-- A run is stopped by a breakpoint; taken off it by hand it comes to the halt, and what is
done after that leaves the machine as it is. -/
theorem running_consistent_stopped :
    let setup : Setup :=
      ⟨⟨⟨"a"⟩, .ofList [1]⟩, .ofDefinitions [(⟨"a"⟩, .decrement 0 ⟨"a"⟩ ⟨"b"⟩), (⟨"b"⟩, .halt)]⟩
    let stopped : List Act :=
      [.step, .toggleBreakpoint, .reset, .run, .tickBatch 64, .toggleBreakpoint, .run]
    let ended : List Act := stopped ++ [.tickBatch 64]
    let after : List Act := [.step, .run, .setRunning false, .toggleBreakpoint, .tickBatch 2]
    let d := (ofSetup setup).performAll stopped
    let d' := (ofSetup setup).performAll ended
    Setup.load "a, 1\na: dec(r0), a, b\nb: halt\n" = .ok setup
      ∧ Act.setRunning true ∉ stopped ∧ Act.setRunning true ∉ ended
      ∧ d.running = true ∧ d.machine.status = .running
      ∧ (d.perform (.tickBatch 64)).notice.text = "Proper HALT at b after 3 steps"
      ∧ d'.machine.status ≠ .running ∧ Act.setRunning true ∉ after ∧ Act.reset ∉ after
      ∧ (d'.performAll after).machine = d'.machine ∧ (d'.performAll after).running = false
      ∧ (d'.perform .step).notice.text = "Proper HALT at b after 3 steps" := by
  intro setup stopped ended after d d'
  have hload : Setup.load "a, 1\na: dec(r0), a, b\nb: halt\n" = .ok setup := by
    decide +kernel
  have hstopped : Act.setRunning true ∉ stopped := by decide
  have hended : Act.setRunning true ∉ ended := by decide
  have hset : Act.setRunning true ∉ after := by decide
  have hreset : Act.reset ∉ after := by decide
  have hrunning : d.running = true := by
    decide +kernel
  have hhalt : (d.perform (.tickBatch 64)).machine.outcome?
      = some ⟨.proper, 3, ⟨"b"⟩, .ofList [0]⟩ := by
    decide +kernel
  have hstatus : d'.machine.status ≠ .running := by
    decide +kernel
  have hagain : (d'.perform .step).machine.outcome? = some ⟨.proper, 3, ⟨"b"⟩, .ofList [0]⟩ := by
    decide +kernel
  obtain ⟨hflag, -, htells, -, -⟩ := running_consistent hload hstopped
  obtain ⟨-, hstays, htells', -, -⟩ := running_consistent hload hended
  have hs : d.machine.status = .running := hflag hrunning
  have hkept := hstays hstatus after hset hreset
  refine ⟨hload, hstopped, hended, hrunning, hs, ?_, hstatus, hset, hreset, hkept.1, hkept.2, ?_⟩
  · rw [htells (.tickBatch 64) _ (Or.inr hs) hhalt]
    decide
  · rw [htells' .step _ (Or.inl rfl) hagain]
    decide

end Debugger

end CounterMachine
