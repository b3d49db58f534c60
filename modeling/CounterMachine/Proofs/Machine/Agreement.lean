import CounterMachine.Proofs.Machine.LimitedRuns

/-!
# Ways to run a machine

A machine can be run for a number of steps, to its halt, or by an execution, and each
way has its own test for the end: whether the machine runs, whether it runs and has steps
left, and whether there is an outcome.  They agree because each is a row of calls of
`step` that ends with the same call, also on a machine that is changed in place.

* `Machine.run_eq_ok_iff` and `InPlace.run_eq_ok_iff`: a run returns an outcome just when
  the machine halts before the step counter is full;
* `InPlace.run_eq_iff` and `InPlace.runLimited_eq_iff`: in place the runs return and leave
  the same.

Main statement: all ways return the same outcome, see the same trace and leave the same
machine, also when single steps come first, and a run whose budget is too small returns
no outcome and has seen the beginning of what any longer one sees, `runs_agree`.
-/

namespace CounterMachine

open Machine (next record start trace)

section Results

variable {σ : Type} {m : Machine} {observe : σ → Snapshot → σ} {seen : σ} {o : Outcome}
  {s : σ × Machine}

theorem Machine.haltsIn_of_run_eq_ok (hm : m.program.EachRegister (· ≤ Registers.highest))
    (h : m.run observe seen = ⟨s.1, s.2, .ok o⟩) :
    (next^[stepLimit - m.steps] m).outcome? = some o := by
  have hresult := congrArg Run.result h
  have hrow := result_runFor hm observe (stepLimit - m.steps) seen
  unfold runFor at hrow
  simp only [run, Run.returning, hrow, Except.bind] at hresult
  rw [← machine_runFor observe _ seen, runFor]
  split at hresult
  · next ho =>
    cases hresult
    exact ho
  · cases hresult

theorem Machine.run_eq_ok_iff (hm : m.program.EachRegister (· ≤ Registers.highest))
    (hsteps : m.steps ≤ stepLimit) :
    m.run observe seen = ⟨s.1, s.2, .ok o⟩ ↔
      ∃ k, m.HaltsIn k o ∧ m.steps + k ≤ stepLimit
        ∧ s = ((trace k m).foldl observe seen, next^[k] m) := by
  constructor
  · intro h
    obtain ⟨k, hk, hhalts⟩ := exists_haltsIn (haltsIn_of_run_eq_ok hm h)
    rw [hhalts.run_eq hm hk, Run.mk.injEq] at h
    exact ⟨k, hhalts, by omega, Prod.ext h.1.symm h.2.1.symm⟩
  · rintro ⟨k, h, hroom, rfl⟩
    exact h.run_eq hm (by omega) observe seen

/-- A run in place returns an outcome when the other run does, and leaves the same. -/
theorem InPlace.run_eq_iff (hm : m.program.EachRegister (· ≤ Registers.highest))
    (hsteps : m.steps ≤ stepLimit) :
    run observe seen m = .ok o s ↔ m.run observe seen = ⟨s.1, s.2, .ok o⟩ := by
  rw [run_eq_ok_iff hsteps, Machine.run_eq_ok_iff hm hsteps]

theorem InPlace.runLimited_eq_iff (hs : m.status = .running) (hsteps : m.steps ≤ stepLimit)
    (hm : m.program.EachRegister (· ≤ Registers.highest)) {budget : Nat} {o? : Option Outcome} :
    runLimited budget observe seen m = .ok o? s
      ↔ m.runLimited budget observe seen = ⟨s.1, s.2, .ok o?⟩ := by
  rw [runLimited_eq hs hsteps hm, Machine.runLimited_eq hs hm]
  simp only [EStateM.Result.ok.injEq, Run.mk.injEq, Except.ok.injEq, Prod.ext_iff]
  tauto

end Results

namespace Program

/-- **All ways to run a program agree.**  When a machine halts within `n` steps, its
execution, its run to the halt and its run with the budget `n` return the same outcome,
see the same events and leave the same machine, each event is what the single step at
its place gives, and a run after `j` single steps returns the same outcome and sees the
rest.  When it does not, the run with the budget returns no outcome and has seen `n`
events, and whatever any longer run returns, it has seen these first.  All of this holds
for machines that are changed in place as well. -/
theorem runs_agree {p : Program} (hp : p.EachRegister (· ≤ Registers.highest)) (l : Label)
    (rs : Registers) {n : Nat} (hn : n ≤ stepLimit) :
    let m := start p l rs
    (∀ o, (next^[n] m).outcome? = some o →
      ∃ events : List Snapshot,
        p.execute l rs = .ok (o, events)
          ∧ InPlace.run record #[] m = .ok o (events.toArray, next^[n] m)
          ∧ m.run record #[] = ⟨events.toArray, next^[n] m, .ok o⟩
          ∧ InPlace.runLimited n record #[] m = .ok (some o) (events.toArray, next^[n] m)
          ∧ m.runLimited n record #[] = ⟨events.toArray, next^[n] m, .ok (some o)⟩
          ∧ (∀ (i : Nat) (e : Snapshot), events[i]? = some e →
              InPlace.step.run (next^[i] m) = .ok e (next^[i + 1] m)
                ∧ (next^[i] m).step = .ok (e, next^[i + 1] m))
          ∧ ∀ j, InPlace.run record #[] (next^[j] m)
                = .ok o ((events.drop j).toArray, next^[n] m)
              ∧ (next^[j] m).run record #[] = ⟨(events.drop j).toArray, next^[n] m, .ok o⟩)
    ∧ ((next^[n] m).outcome? = none →
      ∃ events : List Snapshot, events.length = n
        ∧ InPlace.runLimited n record #[] m = .ok none (events.toArray, next^[n] m)
        ∧ m.runLimited n record #[] = ⟨events.toArray, next^[n] m, .ok none⟩
        ∧ (∀ n', n ≤ n' → n' ≤ stepLimit → ∃ o? longer last,
            InPlace.runLimited n' record #[] m = .ok o? (longer, last)
              ∧ m.runLimited n' record #[] = ⟨longer, last, .ok o?⟩
              ∧ events <+: longer.toList)
        ∧ (∀ o longer last, InPlace.run record #[] m = .ok o (longer, last) →
            events <+: longer.toList)
        ∧ events <+: (m.run record #[]).seen.toList
        ∧ ∀ o all, p.execute l rs = .ok (o, all) → events <+: all) := by
  intro m
  have hlimited {n' : Nat} {o? : Option Outcome} {s : Array Snapshot × Machine} :
      InPlace.runLimited n' record #[] m = .ok o? s
        ↔ m.runLimited n' record #[] = ⟨s.1, s.2, .ok o?⟩ :=
    InPlace.runLimited_eq_iff rfl (Nat.zero_le _) hp
  constructor
  · intro o ho
    obtain ⟨k, hk, hhalts⟩ := Machine.exists_haltsIn ho
    have hend : next^[n] m = next^[k] m := hhalts.iterate_next_of_le hk
    have hroom : k ≤ stepLimit := Nat.le_trans hk hn
    have hrun := hhalts.run_iterate_next hp hroom
    have hplace (j : Nat) : InPlace.run record #[] (next^[j] m)
        = .ok o (((trace k m).drop j).toArray, next^[k] m) := by
      have hsteps : (next^[j] m).steps ≤ stepLimit := by
        rw [hhalts.steps_iterate_next j, Machine.start_steps]
        omega
      exact (InPlace.run_eq_iff (Machine.program_iterate_next m j ▸ hp) hsteps).2 (hrun j)
    have hbudget : m.runLimited n record #[] = ⟨(trace k m).toArray, next^[k] m, .ok (some o)⟩ := by
      rw [hhalts.runLimited_start hp hk hn, Machine.foldl_record]
    rw [hend]
    refine ⟨trace k m, execute_eq_ok_iff.2 ⟨k, hroom, hhalts, rfl⟩, hplace 0, hrun 0,
      hlimited.2 hbudget, hbudget, fun i e he => ?_, fun j => ⟨hplace j, hrun j⟩⟩
    have hstep := hhalts.step_iterate_next he
    have hi : i < k := (Machine.getElem?_trace_eq_some_iff.1 he).1
    refine ⟨InPlace.run_step_eq_ok_iff.2 ⟨hstep, ?_⟩, hstep⟩
    rw [hhalts.steps_eq (Nat.le_of_lt hi), Machine.start_steps]
    omega
  · intro ho
    have hs : (next^[n] m).status = .running := Machine.outcome?_eq_none_iff.1 ho
    have hbudget : m.runLimited n record #[] = ⟨(trace n m).toArray, next^[n] m, .ok none⟩ := by
      rw [Machine.runLimited_start_of_running hp hn hs, Machine.foldl_record]
    have hexecute : ∀ o all, p.execute l rs = .ok (o, all) → trace n m <+: all := by
      intro o all hall
      obtain ⟨k, -, hhalts, rfl⟩ := execute_eq_ok_iff.1 hall
      exact Machine.trace_prefix (Nat.le_of_lt (hhalts.lt_of_running hs)) m
    refine ⟨trace n m, Machine.length_trace n m, hlimited.2 hbudget, hbudget, fun n' hle hn' => ?_,
      fun o longer last hlonger => ?_, ?_, hexecute⟩
    · have hlonger : m.runLimited n' record #[] = ⟨(Machine.runFor record n' #[] m).seen,
          next^[n'] m, .ok (next^[n'] m).outcome?⟩ := by
        rw [Machine.runLimited_start hn', Run.returning, Machine.machine_runFor,
          Machine.result_runFor (m := m) hp]
        rfl
      exact ⟨_, _, _, hlimited.2 hlonger, hlonger, Machine.trace_prefix_runFor hp hs hle⟩
    · obtain ⟨k, hhalts, -, hlast⟩ := (InPlace.run_eq_ok_iff (Nat.zero_le _)).1 hlonger
      rw [Machine.foldl_record, Prod.mk.injEq] at hlast
      rw [hlast.1]
      exact Machine.trace_prefix (Nat.le_of_lt (hhalts.lt_of_running hs)) m
    · exact Machine.trace_prefix_runFor hp hs hn

/-- One is moved from a register to the next: two steps are too few, five are enough. -/
theorem runs_agree_moving :
    let p : Program := .ofDefinitions
      [(⟨"a"⟩, .decrement 0 ⟨"b"⟩ ⟨"c"⟩), (⟨"b"⟩, .increment 1 ⟨"a"⟩), (⟨"c"⟩, .halt)]
    let m := start p ⟨"a"⟩ (.ofList [1])
    let o : Outcome := ⟨.proper, 4, ⟨"c"⟩, .ofList [0, 1]⟩
    p.EachRegister (· ≤ Registers.highest)
      ∧ (next^[2] m).outcome? = none ∧ (next^[5] m).outcome? = some o
      ∧ ∃ events first : List Snapshot,
          p.execute ⟨"a"⟩ (.ofList [1]) = .ok (o, events)
            ∧ InPlace.run record #[] m = .ok o (events.toArray, next^[5] m)
            ∧ m.runLimited 5 record #[] = ⟨events.toArray, next^[5] m, .ok (some o)⟩
            ∧ InPlace.run record #[] (next^[3] m)
              = .ok o ((events.drop 3).toArray, next^[5] m)
            ∧ first.length = 2
            ∧ InPlace.runLimited 2 record #[] m = .ok none (first.toArray, next^[2] m)
            ∧ m.runLimited 2 record #[] = ⟨first.toArray, next^[2] m, .ok none⟩
            ∧ first <+: events := by
  intro p m o
  have hp : p.EachRegister (· ≤ Registers.highest) := by
    refine (eachRegister_ofDefinitions_iff (by decide)).2 ?_
    simp [Instruction.register?, Registers.highest]
  have hfew : (next^[2] m).outcome? = none := by
    decide +kernel
  have henough : (next^[5] m).outcome? = some o := by
    decide +kernel
  obtain ⟨events, hexecute, hrun, -, -, hlimited, -, hrest⟩ :=
    (runs_agree hp ⟨"a"⟩ (.ofList [1]) (n := 5) (by decide)).1 o henough
  obtain ⟨first, hlength, hplace, hfirst, -, -, -, hlonger⟩ :=
    (runs_agree hp ⟨"a"⟩ (.ofList [1]) (n := 2) (by decide)).2 hfew
  exact ⟨hp, hfew, henough, events, first, hexecute, hrun, hlimited, (hrest 3).1, hlength, hplace,
    hfirst, hlonger o events hexecute⟩

end Program

end CounterMachine
