import CounterMachine.Playground
import CounterMachine.Proofs.Machine.Runs
import CounterMachine.Proofs.SavedState.RoundTrip
import CounterMachine.Proofs.Source.Writable

/-!
# Budgets of a playground

A playground is stepped and run in stretches, each with a budget of its own.
`Playground.Session` says which playgrounds a session leads to and what has been spent
since the last load or reset; a step spends one, and a run its budget, also when the
machine halts before it is used up.

The invariant is that the playground holds the machine after as many calls of `step` as
have been spent, see `Session.exists_holds`.  A call on a machine that has halted changes
nothing, so nothing has to be known about how the budget was cut.

Main statement: a playground shows the machine of one run with the whole budget,
`budgets_add_up`.
-/

namespace CounterMachine

namespace Playground

/-! ## Sessions -/

/-- The playgrounds that a load and then steps, runs and resets lead to, with the
program that was loaded and what was spent since the last load or reset. -/
inductive Session : Setup → Nat → Playground → Prop
  | load {source : String} {setup : Setup} {count : Nat} {p : Playground}
      (hs : Setup.load source = .ok setup) (h : load source = .ok (count, p)) :
      Session setup 0 p
  | step {setup : Setup} {spent : Nat} {p p' : Playground} {text : String}
      (h : Session setup spent p) (hs : p.step = .ok (text, p')) : Session setup (spent + 1) p'
  | run {setup : Setup} {spent budget count : Nat} {p p' : Playground}
      (h : Session setup spent p) (hr : p.run budget = .ok (count, p')) :
      Session setup (spent + budget) p'
  | reset {setup : Setup} {spent : Nat} {p : Playground} (h : Session setup spent p) :
      Session setup 0 p.reset

theorem step_eq_ok_iff {p p' : Playground} {m : Machine} {text : String}
    (hp : p.machine? = some m) :
    p.step = .ok (text, p') ↔
      ∃ m', m.step = .ok (m.snapshot, m') ∧ text = m.snapshot.text ∧ p' = ⟨some m'⟩ := by
  unfold step
  rw [hp]
  simp only
  constructor
  · intro h
    split at h
    · next seen m' hstep =>
      cases h
      obtain ⟨-, rfl, -⟩ := Machine.step_eq_ok_iff.1 hstep
      exact ⟨m', hstep, rfl, rfl⟩
    · cases h
  · rintro ⟨m', hstep, rfl, rfl⟩
    rw [hstep]

theorem run_eq_ok {p : Playground} {m : Machine} (hp : p.machine? = some m)
    (hm : m.program.EachRegister (· ≤ Registers.highest)) (budget : Nat) :
    ∃ p', p.run budget = .ok (p'.steps, p')
      ∧ p'.machine? = some (Machine.next^[min (m.steps + budget) stepLimit - m.steps] m) := by
  by_cases hs : m.status = .running
  · have hresult := Machine.result_runLimited hs hm budget Machine.ignore ()
    refine ⟨⟨some (Machine.next^[min (m.steps + budget) stepLimit - m.steps] m)⟩, ?_, rfl⟩
    unfold run
    simp only [hp, Machine.isRunning_iff.2 hs, if_true, hresult, Machine.machine_runLimited]
    rfl
  · refine ⟨p, ?_, ?_⟩
    · unfold run
      simp only [hp, mt Machine.isRunning_iff.1 hs, steps, Option.map_some, Option.getD_some]
      rfl
    · rw [hp, Function.iterate_fixed (Machine.next_of_not_running hs)]

/-! ## What a session leads to -/

/-- A playground that holds a machine on its way from the start of a setup, `spent` calls
of `step` behind it unless the step counter is too small for them. -/
structure Holds (setup : Setup) (spent : Nat) (p : Playground) (m : Machine) : Prop where
  machine? : p.machine? = some m
  reset_eq : m.reset = setup.machine
  machine_eq : spent ≤ stepLimit → m = Machine.next^[spent] setup.machine

theorem Holds.program_eq {setup : Setup} {spent : Nat} {p : Playground} {m : Machine}
    (h : Holds setup spent p m) : m.program = setup.program :=
  congrArg Machine.program h.reset_eq

theorem Holds.step {setup : Setup} {spent : Nat} {p p' : Playground} {m : Machine}
    {text : String} (h : Holds setup spent p m) (hs : p.step = .ok (text, p')) :
    ∃ m', Holds setup (spent + 1) p' m' := by
  obtain ⟨m', hstep, -, rfl⟩ := (step_eq_ok_iff h.machine?).1 hs
  obtain ⟨hrunning, -, hadvance⟩ := Machine.step_eq_ok_iff.1 hstep
  have hnext : m' = m.next := (Machine.next_of_advance_ok hrunning hadvance).symm
  refine ⟨m', rfl, ?_, fun hspent => ?_⟩
  · rw [hnext, Machine.reset_next, h.reset_eq]
  · rw [hnext, h.machine_eq (by omega), Function.iterate_succ_apply']

theorem Holds.run {setup : Setup} {spent budget count : Nat} {p p' : Playground} {m : Machine}
    (h : Holds setup spent p m) (hm : m.program.EachRegister (· ≤ Registers.highest))
    (hr : p.run budget = .ok (count, p')) : ∃ m', Holds setup (spent + budget) p' m' := by
  obtain ⟨q, hrun, hmachine⟩ := run_eq_ok h.machine? hm budget
  rw [hr, Except.ok.injEq, Prod.mk.injEq] at hrun
  obtain ⟨-, rfl⟩ := hrun
  refine ⟨_, hmachine, ?_, fun hspent => ?_⟩
  · rw [Machine.reset_iterate_next, h.reset_eq]
  · have hm : m = Machine.next^[spent] setup.machine := h.machine_eq (by omega)
    have hsteps : m.steps ≤ spent := by
      have hle := Machine.steps_iterate_next_le setup.machine spent
      rw [← hm] at hle
      simpa [Setup.machine] using hle
    have hbudget : min (m.steps + budget) stepLimit - m.steps = budget := by
      omega
    rw [hbudget, hm, ← Function.iterate_add_apply, Nat.add_comm]

theorem Holds.reset {setup : Setup} {spent : Nat} {p : Playground} {m : Machine}
    (h : Holds setup spent p m) : Holds setup 0 p.reset m.reset := by
  refine ⟨?_, ?_, fun _ => h.reset_eq⟩
  · rw [Playground.reset, h.machine?, Option.map_some]
  · rw [Machine.reset_reset, h.reset_eq]

theorem Session.exists_holds {setup : Setup} {spent : Nat} {p : Playground}
    (h : Session setup spent p) :
    setup.program.EachRegister (· ≤ Registers.highest) ∧ ∃ m, Holds setup spent p m := by
  induction h with
  | @load source setup count p hs h =>
      unfold Playground.load at h
      rw [hs] at h
      cases h
      exact ⟨(Setup.writable_of_load hs).registers, setup.machine, rfl, rfl, fun _ => rfl⟩
  | step _ hs ih =>
      obtain ⟨hrange, m, hm⟩ := ih
      exact ⟨hrange, hm.step hs⟩
  | run _ hr ih =>
      obtain ⟨hrange, m, hm⟩ := ih
      exact ⟨hrange, hm.run (hm.program_eq ▸ hrange) hr⟩
  | reset _ ih =>
      obtain ⟨hrange, m, hm⟩ := ih
      exact ⟨hrange, m.reset, hm.reset⟩

theorem Holds.of_step {setup : Setup} {spent : Nat} {p p' : Playground} {m : Machine}
    {text : String} (h : Holds setup spent p m) (hspent : spent ≤ stepLimit)
    (hrange : setup.machine.program.EachRegister (· ≤ Registers.highest))
    (hs : p.step = .ok (text, p')) :
    (Machine.next^[spent] setup.machine).status = .running ∧ p.steps = spent
      ∧ text = (Machine.next^[spent] setup.machine).snapshot.text := by
  obtain ⟨m', hstep, htext, -⟩ := (step_eq_ok_iff h.machine?).1 hs
  have hrunning := (Machine.step_eq_ok_iff.1 hstep).1
  have hsteps : p.steps = m.steps := by
    rw [steps, h.machine?]
    rfl
  rw [h.machine_eq hspent] at hrunning hsteps htext
  refine ⟨hrunning, ?_, htext⟩
  rw [hsteps, Machine.steps_of_running hrange hrunning]
  exact Nat.zero_add _

/-! ## What a playground shows -/

/-- What a playground tells is what there is to tell of a machine; the machine's snapshot
is read back from the text of the state. -/
structure Shows (p : Playground) (m : Machine) : Prop where
  label : p.label = m.label.text
  registers : p.registers = m.registers.toList.map Nat.repr
  status : p.status = m.status.name
  isRunning : p.isRunning = m.isRunning
  steps : p.steps = m.steps
  stateJson : p.stateJson = m.snapshot.toJson.text .compact
  read_stateJson : (Json.read? p.stateJson).bind Snapshot.ofJson? = some m.snapshot

theorem shows_of_machine? {p : Playground} {m : Machine} (hp : p.machine? = some m)
    (hsteps : m.steps ≤ stepLimit) : p.Shows m := by
  obtain ⟨machine?⟩ := p
  subst hp
  have hread := bind_read?_text .compact (Snapshot.ofJson?_toJson (s := m.snapshot)
    (Nat.lt_of_le_of_lt hsteps (by decide)))
  exact ⟨rfl, rfl, rfl, rfl, rfl, rfl, hread⟩

/-- **The budgets of a session add up.**  However they were cut, a playground shows what
one run of a new machine with all of the budget comes to: it has counted what was spent or,
if that is less, the steps up to the halt.  A run always answers with the count of steps, a
step is taken while the machine runs, and its line is that of the execution's trace at this
place. -/
theorem budgets_add_up {setup : Setup} {total : Nat} {p : Playground}
    (h : Session setup total p) (htotal : total ≤ stepLimit) :
    let whole := setup.machine.runLimited total Machine.ignore ()
    (whole.result = .ok whole.machine.outcome? ∧ p.Shows whole.machine)
      ∧ (∀ k o, setup.machine.HaltsIn k o → p.steps = min total k)
      ∧ ((∀ k o, ¬ setup.machine.HaltsIn k o) → p.steps = total)
      ∧ (∀ budget, ∃ p', p.run budget = .ok (p'.steps, p'))
      ∧ (p.isRunning = true → ∃ text p', p.step = .ok (text, p'))
      ∧ ∀ text p', p.step = .ok (text, p') → ∃ event : Snapshot, text = event.text
        ∧ (∀ k, p.steps < k → (Machine.trace k setup.machine)[p.steps]? = some event)
        ∧ ∀ o events, setup.execute = .ok (o, events) → events[p.steps]? = some event := by
  intro whole
  obtain ⟨hrange, m, hm⟩ := h.exists_holds
  have hmachine : m = Machine.next^[total] setup.machine := hm.machine_eq htotal
  have hsteps : m.steps ≤ total := by
    have hle := Machine.steps_iterate_next_le setup.machine total
    rw [← hmachine] at hle
    simpa [Setup.machine] using hle
  have hshows : p.Shows m := shows_of_machine? hm.machine? (Nat.le_trans hsteps htotal)
  have hm' : m.program.EachRegister (· ≤ Registers.highest) := hm.program_eq ▸ hrange
  have hwhole : whole.machine = m :=
    (congrArg Run.machine (Machine.runLimited_start htotal _ _ _ _ _)).trans
      ((Machine.machine_runFor _ _ _ _).trans hmachine.symm)
  refine ⟨⟨Machine.result_runLimited rfl hrange _ _ _, hwhole ▸ hshows⟩, fun k o hk => ?_,
    fun hk => ?_, fun budget => ?_, fun hrunning => ?_, fun text p' hstep => ?_⟩
  · rw [hshows.steps, hmachine, hk.steps_iterate_next]
    exact Nat.zero_add _
  · rw [hshows.steps, hmachine, Machine.steps_iterate_next_of_not_haltsIn hrange hk]
    exact Nat.zero_add _
  · obtain ⟨p', hrun, -⟩ := run_eq_ok hm.machine? hm' budget
    exact ⟨p', hrun⟩
  · rw [hshows.isRunning, Machine.isRunning_iff] at hrunning
    obtain ⟨m', hadvance⟩ := Machine.exists_advance_eq_ok hm'
    exact ⟨_, _, (step_eq_ok_iff hm.machine?).2
      ⟨m', Machine.step_of_advance_ok hrunning hadvance, rfl, rfl⟩⟩
  · obtain ⟨hrunning, hcount, htext⟩ := hm.of_step htotal hrange hstep
    have htrace : ∀ k, p.steps < k → (Machine.trace k setup.machine)[p.steps]?
        = some (Machine.next^[total] setup.machine).snapshot := by
      intro k hk
      rw [Machine.getElem?_trace_of_lt hk, hcount]
    refine ⟨_, htext, htrace, fun o events hexecute => ?_⟩
    obtain ⟨k, -, hk, rfl⟩ := Program.execute_eq_ok_iff.1 hexecute
    exact htrace k (hcount ▸ hk.lt_of_running hrunning)

/-- A run beyond the halt and a reset, and then a step and two runs, of which the second
has more budget than there are steps left. -/
theorem budgets_add_up_reset :
    let source := "a, 2\na: dec(r0), b, c\nb: inc(r1), a\nc: halt\n"
    let setup : Setup := ⟨⟨⟨"a"⟩, .ofList [2]⟩, .ofDefinitions
      [(⟨"a"⟩, .decrement 0 ⟨"b"⟩ ⟨"c"⟩), (⟨"b"⟩, .increment 1 ⟨"a"⟩), (⟨"c"⟩, .halt)]⟩
    let o : Outcome := ⟨.proper, 6, ⟨"c"⟩, .ofList [0, 2]⟩
    let first : Playground := ⟨some (Machine.next^[1] setup.machine)⟩
    Setup.load source = .ok setup ∧ setup.machine.HaltsIn 6 o
      ∧ Session setup 1 first ∧ first.steps = 1
      ∧ (∃ p, first.run 3 = .ok (p.steps, p))
      ∧ (∃ text p, first.step = .ok (text, p) ∧ ∃ event : Snapshot, text = event.text
        ∧ (Machine.trace 6 setup.machine)[1]? = some event)
      ∧ ∃ last, Session setup 14 last ∧ last.steps = 6
        ∧ last.Shows (setup.machine.runLimited 14 Machine.ignore ()).machine := by
  intro source setup o first
  have hload : Setup.load source = .ok setup := by
    decide +kernel
  have hhalts : setup.machine.HaltsIn 6 o := by
    constructor
    · intro i hi
      have hall : ∀ i < 6, (Machine.next^[i] setup.machine).status = .running := by
        decide +kernel
      exact hall i hi
    · decide +kernel
  have hrange : setup.machine.program.EachRegister (· ≤ Registers.highest) :=
    (Setup.writable_of_load hload).registers
  -- loaded, run beyond the halt, and reset
  let new : Playground := ⟨some setup.machine⟩
  have hnew : Session setup 0 new := .load hload (by rw [Playground.load, hload])
  obtain ⟨p, hp, hpm⟩ := run_eq_ok (p := new) rfl hrange 10
  have hreset : p.reset = new := by
    rw [Playground.reset, hpm, Option.map_some, Machine.reset_iterate_next]
    rfl
  have hagain : Session setup 0 new := hreset ▸ (hnew.run hp).reset
  -- a step and two runs
  have hstep : new.step = .ok (setup.machine.snapshot.text, first) :=
    (step_eq_ok_iff rfl).2 ⟨_, by decide +kernel, rfl, rfl⟩
  have hfirst : Session setup 1 first := hagain.step hstep
  obtain ⟨-, hsteps, -, hrun, hnext, hline⟩ := budgets_add_up hfirst (by decide)
  obtain ⟨second, hsecond⟩ := hrun 3
  obtain ⟨-, -, -, hrun', -, -⟩ := budgets_add_up (hfirst.run hsecond) (by decide)
  obtain ⟨last, hlast⟩ := hrun' 10
  have hsession : Session setup 14 last := (hfirst.run hsecond).run hlast
  obtain ⟨⟨-, hshows⟩, hend, -⟩ := budgets_add_up hsession (by decide)
  have hone : first.steps = 1 := hsteps 6 o hhalts
  obtain ⟨text, p', htaken⟩ := hnext (by decide +kernel)
  obtain ⟨event, htext, htrace, -⟩ := hline text p' htaken
  have hevent : (Machine.trace 6 setup.machine)[1]? = some event := by
    have hat := htrace 6 (by rw [hone]; decide)
    rwa [hone] at hat
  exact ⟨hload, hhalts, hfirst, hone, ⟨second, hsecond⟩, ⟨text, p', htaken, event, htext, hevent⟩,
    last, hsession, hend 6 o hhalts, hshows⟩

end Playground

end CounterMachine
