import CounterMachine.Proofs.Debugger.Breakpoints
import CounterMachine.Proofs.Machine.FirstTime

/-!
# Batches of ticks

A batch of ticks goes on until the machine halts or comes to a breakpoint, and ends
before that if it has too few ticks.  The tick that halts the machine clears the flag at
once; at a breakpoint it takes one more tick to notice it.  `Went` says what holds while
ticks take steps, `Went.tickBatch` that it holds up to the first stop.

Main statement: a batch ends where it has to, whatever its size, `tickBatch_stops`.
-/

namespace CounterMachine

namespace Debugger

open Machine (next trace)

/-- The number of steps to the first halt or breakpoint, infinite if there is none. -/
noncomputable def stopTime (d : Debugger) : ℕ∞ :=
  firstTime fun j =>
    (next^[j] d.machine).status ≠ .running ∨ (next^[j] d.machine).label ∈ d.breakpoints

theorem stopTime_spec (d : Debugger) (n : Nat) :
    let j := (min (n : ℕ∞) d.stopTime).toNat
    j ≤ n
      ∧ (∀ i < j, (next^[i] d.machine).status = .running
          ∧ (next^[i] d.machine).label ∉ d.breakpoints)
      ∧ (n - j = 0 ∨ (next^[j] d.machine).status ≠ .running
          ∨ (next^[j] d.machine).label ∈ d.breakpoints)
      ∧ (d.stopTime < n ↔ 0 < n - j) := by
  intro j
  obtain ⟨hj, hbefore, hend, hlt, -⟩ := toNat_min_firstTime
    (fun i => (next^[i] d.machine).status ≠ .running
      ∨ (next^[i] d.machine).label ∈ d.breakpoints) n
  refine ⟨hj, fun i hi => ?_, hend.imp_left fun h => ?_, hlt.trans Nat.sub_pos_iff_lt.symm⟩
  · obtain ⟨hs, hl⟩ := not_or.1 (hbefore i hi)
    exact ⟨not_not.1 hs, hl⟩
  · exact Nat.sub_eq_zero_of_le (Nat.le_of_eq h.symm)

/-- Some ticks have taken a step each. -/
structure Went (d : Debugger) (j : Nat) (d' : Debugger) : Prop where
  machine : d'.machine = next^[j] d.machine
  breakpoints : d'.breakpoints = d.breakpoints
  running : d'.running = true ↔ d'.machine.status = .running
  notice : ∀ o, d'.machine.outcome? = some o → d'.notice = .halted o

variable {d d' d'' : Debugger} {j : Nat}

theorem went_zero (hrunning : d.running = true) (hs : d.machine.status = .running) :
    d.Went 0 d := by
  refine ⟨rfl, rfl, iff_of_true hrunning hs, fun o ho => ?_⟩
  exact absurd hs (Machine.not_running_of_outcome ho)

theorem tick_of_not_mem (hrunning : d.running = true) (hs : d.machine.status = .running)
    (hl : d.machine.label ∉ d.breakpoints) : d.tick = d.step := by
  have hbreakpoint : d.atBreakpoint = false := by
    rwa [Bool.eq_false_iff, Ne, atBreakpoint_iff]
  have hmachine : d.machine.isRunning = true := Machine.isRunning_iff.2 hs
  simp [tick, hrunning, hmachine, hbreakpoint]

theorem tick_of_mem (hrunning : d.running = true) (hs : d.machine.status = .running)
    (hl : d.machine.label ∈ d.breakpoints) :
    d.tick = { d with running := false, notice := .stoppedAt d.machine.label } := by
  have hbreakpoint : d.atBreakpoint = true := atBreakpoint_iff.2 hl
  have hmachine : d.machine.isRunning = true := Machine.isRunning_iff.2 hs
  simp [tick, hrunning, hmachine, hbreakpoint]

theorem Went.of_steps (h : d.Went j d')
    (hm : d.machine.program.EachRegister (· ≤ Registers.highest))
    (hs : d'.machine.status = .running) (hd : Steps d' d'') : d.Went (j + 1) d'' := by
  have hnext {m : Machine} (ha : d'.machine.advance = .ok m) : m = next^[j + 1] d.machine := by
    rw [Function.iterate_succ_apply', ← h.machine, Machine.next_of_advance_ok hs ha]
  cases hd with
  | halted ho => exact absurd hs (Machine.not_running_of_outcome ho)
  | fails _ ha =>
      have hprogram : d'.machine.program = d.machine.program := by
        rw [h.machine, Machine.program_iterate_next]
      obtain ⟨m, hok⟩ := Machine.exists_advance_eq_ok (hprogram ▸ hm)
      rw [hok] at ha
      cases ha
  | moves _ ha hm' =>
      refine ⟨hnext ha, h.breakpoints, iff_of_true (h.running.2 hs) hm', fun o ho => ?_⟩
      exact absurd hm' (Machine.not_running_of_outcome ho)
  | halts _ ha ho =>
      have hstopped := Machine.not_running_of_outcome ho
      refine ⟨hnext ha, h.breakpoints, iff_of_false Bool.false_ne_true hstopped, fun o' ho' => ?_⟩
      rw [ho, Option.some.injEq] at ho'
      rw [ho']

theorem Went.tickBatch (hrunning : d.running = true) (hs : d.machine.status = .running)
    (hm : d.machine.program.EachRegister (· ≤ Registers.highest))
    (h : ∀ i < j, (next^[i] d.machine).status = .running
      ∧ (next^[i] d.machine).label ∉ d.breakpoints) : d.Went j (tickBatch j d) := by
  induction j with
  | zero => exact went_zero hrunning hs
  | succ j ih =>
      have hbefore := ih fun i hi => h i (Nat.lt_succ_of_lt hi)
      obtain ⟨hs', hl⟩ := h j (Nat.lt_succ_self j)
      rw [← hbefore.machine] at hs' hl
      rw [← hbefore.breakpoints] at hl
      rw [tickBatch_add, tickBatch_succ, tickBatch_zero,
        tick_of_not_mem (hbefore.running.2 hs') hs' hl]
      exact hbefore.of_steps hm hs' (steps_step _)

theorem Went.tickBatch_of_stop (h : d.Went j d') {n : Nat}
    (hstop : n = 0 ∨ d'.machine.status ≠ .running ∨ d'.machine.label ∈ d'.breakpoints) :
    let d'' := Debugger.tickBatch n d'
    d''.machine = d'.machine ∧ d''.breakpoints = d'.breakpoints
      ∧ (d''.running = false ↔ d'.machine.status ≠ .running ∨ 0 < n)
      ∧ (0 < n → d'.machine.status = .running → d''.notice = .stoppedAt d'.machine.label)
      ∧ ∀ o, d'.machine.outcome? = some o → d''.notice = .halted o := by
  by_cases hs : d'.machine.status = .running
  · have hrunning : d'.running = true := h.running.2 hs
    cases n with
    | zero =>
        rw [tickBatch_zero]
        refine ⟨rfl, rfl, ?_, fun hn => absurd hn (Nat.lt_irrefl 0), h.notice⟩
        simp [hs, hrunning]
    | succ n =>
        have hl := (hstop.resolve_left (Nat.succ_ne_zero n)).resolve_left (not_not.2 hs)
        rw [tickBatch_succ, tick_of_mem hrunning hs hl, tickBatch_of_not_running rfl]
        refine ⟨rfl, rfl, iff_of_true rfl (Or.inr (Nat.succ_pos n)), fun _ _ => rfl, fun o ho => ?_⟩
        exact absurd hs (Machine.not_running_of_outcome ho)
  · have hstopped : d'.running = false := Bool.eq_false_iff.2 (mt h.running.1 hs)
    rw [tickBatch_of_not_running hstopped]
    exact ⟨rfl, rfl, iff_of_true hstopped (Or.inl hs), fun _ hs' => absurd hs' hs, h.notice⟩

/-- **A batch of ticks stops at the first breakpoint or halt.**  From a running machine of a
loaded program, a batch of `n` ticks takes the steps to the first halt or breakpoint, or `n`
if they are fewer, and none at a breakpoint.  The breakpoints stay; the debugger has stopped
just when the machine has halted or the batch had ticks left, and says where it has stopped
or how the machine has halted.  Two batches come to what one of both sizes together does. -/
theorem tickBatch_stops {source : String} {setup : Setup}
    (hload : Setup.load source = .ok setup) {d : Debugger}
    (hprogram : d.machine.program = setup.program) (hrunning : d.running = true)
    (hs : d.machine.status = .running) (n : Nat) :
    let j := (min (n : ℕ∞) d.stopTime).toNat
    let m := next^[j] d.machine
    let d' := tickBatch n d
    d'.machine = m ∧ m.steps = d.machine.steps + j
      ∧ d.visited d' = (trace j d.machine).map (·.label)
      ∧ (∀ l ∈ d.visited d', l ∉ d.breakpoints)
      ∧ d'.breakpoints = d.breakpoints
      ∧ (d'.running = false ↔ m.status ≠ .running ∨ d.stopTime < n)
      ∧ (d.stopTime < n → m.status = .running → d'.notice.text = "Breakpoint at " ++ m.label.text)
      ∧ (∀ kind, m.status = .halted kind → d'.notice.text =
          kind.title ++ " at " ++ m.label.text ++ " after " ++ m.steps.repr ++ " steps")
      ∧ ∀ a b, tickBatch b (tickBatch a d) = tickBatch (a + b) d := by
  intro j m d'
  have hrange : d.machine.program.EachRegister (· ≤ Registers.highest) :=
    hprogram ▸ (Setup.writable_of_load hload).registers
  obtain ⟨hj, hgoes, hend, hleft⟩ := stopTime_spec d n
  have hwent : d.Went j (tickBatch j d) := Went.tickBatch hrunning hs hrange hgoes
  have hcount : m.steps = d.machine.steps + j :=
    (Machine.takes_of_running hrange fun i hi => (hgoes i hi).1).steps_eq (Nat.le_refl j)
  have hbatch : d' = tickBatch (n - j) (tickBatch j d) := by
    rw [← tickBatch_add, Nat.add_sub_cancel' hj]
  have hmachine : (tickBatch j d).machine = m := hwent.machine
  have hstop : n - j = 0 ∨ (tickBatch j d).machine.status ≠ .running
      ∨ (tickBatch j d).machine.label ∈ (tickBatch j d).breakpoints := by
    rw [hmachine, hwent.breakpoints]
    exact hend
  obtain ⟨hm, hb, hrun, hat, hhalt⟩ := hwent.tickBatch_of_stop hstop
  rw [← hbatch, hmachine] at hm
  rw [← hbatch, hwent.breakpoints] at hb
  rw [← hbatch, hmachine, ← hleft] at hrun hat
  rw [← hbatch, hmachine] at hhalt
  refine ⟨hm, hcount, ?_, fun l hl => not_mem_breakpoints_of_tickBatch hl, hb, hrun,
    fun hn hs' => ?_, fun kind hk => ?_, fun a b => (tickBatch_add d a b).symm⟩
  · rw [visited, hm, hcount, Nat.add_sub_cancel_left]
  · rw [hat hn hs']
    rfl
  · have ho : m.outcome? = some ⟨kind, m.steps, m.label, m.registers⟩ := by
      rw [Machine.outcome?, hk]
    rw [hhalt _ ho]
    rfl

/-- With a breakpoint at the second label a batch of two ticks stops there, and one of a
single tick comes to the same label and goes on running; without it the batch that takes
the last step says how the machine has halted. -/
theorem tickBatch_stops_second :
    let setup : Setup := ⟨⟨⟨"a"⟩, .ofList [0]⟩, .ofDefinitions
      [(⟨"a"⟩, .increment 0 ⟨"b"⟩), (⟨"b"⟩, .increment 0 ⟨"c"⟩), (⟨"c"⟩, .halt)]⟩
    let d := (ofSetup setup).performAll [.step, .toggleBreakpoint, .reset, .run]
    let free := (ofSetup setup).performAll [.run]
    Setup.load "a, 0\na: inc(r0), b\nb: inc(r0), c\nc: halt\n" = .ok setup
      ∧ d.machine.program = setup.program ∧ d.running = true ∧ d.machine.status = .running
      ∧ d.stopTime = (1 : Nat)
      ∧ (tickBatch 1 d).running = true ∧ (tickBatch 1 d).machine.label = ⟨"b"⟩
      ∧ (tickBatch 2 d).running = false ∧ (tickBatch 2 d).notice.text = "Breakpoint at b"
      ∧ tickBatch 1 (tickBatch 1 d) = tickBatch 2 d
      ∧ free.running = true ∧ free.machine.status = .running ∧ free.stopTime = (3 : Nat)
      ∧ (tickBatch 3 free).running = false
      ∧ (tickBatch 3 free).notice.text = "Proper HALT at c after 3 steps" := by
  intro setup d free
  have hload : Setup.load "a, 0\na: inc(r0), b\nb: inc(r0), c\nc: halt\n" = .ok setup := by
    decide +kernel
  have hprogram : d.machine.program = setup.program := by
    decide +kernel
  have hrunning : d.running = true ∧ d.machine.status = .running := by
    decide +kernel
  have hfree : free.running = true ∧ free.machine.status = .running := by
    decide +kernel
  have hstop : d.stopTime = (1 : Nat) := by
    refine firstTime_eq_coe_iff.2 ?_
    decide +kernel
  have hend : free.stopTime = (3 : Nat) := by
    refine firstTime_eq_coe_iff.2 ?_
    decide +kernel
  obtain ⟨hm, -, -, -, -, hrun, -, -, hbatches⟩ :=
    tickBatch_stops hload hprogram hrunning.1 hrunning.2 1
  obtain ⟨-, -, -, -, -, hrun', hat, -⟩ :=
    tickBatch_stops hload hprogram hrunning.1 hrunning.2 2
  obtain ⟨-, -, -, -, -, hhalts, -, hhalt, -⟩ := tickBatch_stops hload rfl hfree.1 hfree.2 3
  rw [hstop, min_self, ENat.toNat_natCast] at hm hrun
  rw [hstop, min_eq_right (Nat.cast_le.2 (by decide)), ENat.toNat_natCast] at hrun' hat
  rw [hend, min_self, ENat.toNat_natCast] at hhalts hhalt
  have hlabel : (next^[1] d.machine).label = ⟨"b"⟩ ∧ (next^[1] d.machine).status = .running := by
    decide +kernel
  have hlast : (next^[3] free.machine).status = .halted .proper := by
    decide +kernel
  have hon : (tickBatch 1 d).running = true := by
    rw [← Bool.not_eq_false, hrun]
    rintro (hs | hlt)
    · exact hs hlabel.2
    · exact absurd hlt (lt_irrefl _)
  have hlt : ((1 : Nat) : ℕ∞) < (2 : Nat) := Nat.cast_lt.2 (by decide)
  refine ⟨hload, hprogram, hrunning.1, hrunning.2, hstop, hon, hm ▸ hlabel.1,
    hrun'.2 (Or.inr hlt), ?_, hbatches 1 1, hfree.1, hfree.2, hend, ?_, ?_⟩
  · rw [hat hlt hlabel.2, hlabel.1]
    decide
  · exact hhalts.2 (Or.inl (hlast ▸ Status.noConfusion))
  · rw [hhalt .proper hlast]
    decide +kernel

end Debugger

end CounterMachine
