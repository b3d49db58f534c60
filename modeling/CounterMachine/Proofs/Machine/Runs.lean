import CounterMachine.Proofs.Machine.Halting

/-!
# What runs give

A run hands its observer what is seen before each step and leaves the machine after as
many calls of `step`.  `runFor_eq` says so for any number of steps and any observer,
`HaltsIn.runFor_eq` when they last to the halt, and `HaltsIn.run_eq` and
`runLimited_start` what is returned then.  The traces of runs of different lengths begin
alike, `trace_prefix`.
-/

namespace CounterMachine

namespace Machine

variable {σ : Type}

/-! ## Traces in stretches -/

theorem trace_add (a b : Nat) (m : Machine) :
    trace (a + b) m = trace a m ++ trace b (next^[a] m) := by
  induction a generalizing m with
  | zero =>
      rw [Nat.zero_add]
      rfl
  | succ a ih =>
      rw [Nat.add_right_comm, trace, ih, trace, List.cons_append, Function.iterate_succ_apply]

theorem trace_prefix {a b : Nat} (h : a ≤ b) (m : Machine) : trace a m <+: trace b m := by
  obtain ⟨c, rfl⟩ := Nat.exists_eq_add_of_le h
  rw [trace_add]
  exact List.prefix_append _ _

theorem drop_trace (j k : Nat) (m : Machine) :
    (trace k m).drop j = trace (k - j) (next^[j] m) := by
  rcases Nat.le_total j k with h | h
  · obtain ⟨c, rfl⟩ := Nat.exists_eq_add_of_le h
    rw [trace_add, List.drop_left' (length_trace j m), Nat.add_sub_cancel_left]
  · rw [List.drop_eq_nil_of_le (by rwa [length_trace]), Nat.sub_eq_zero_of_le h]
    rfl

/-! ## What a run gives -/

theorem steps_sub_of_next_eq {m : Machine} (h : m.next = m) (n : Nat) :
    (next^[n] m).steps - m.steps = 0 := by
  rw [Function.iterate_fixed h, Nat.sub_self]

theorem steps_sub_of_advance_ok {m m' : Machine} (hs : m.status = .running)
    (ha : m.advance = .ok m') (n : Nat) :
    (next^[n + 1] m).steps - m.steps = ((next^[n] m').steps - m'.steps) + 1 := by
  have hstep := steps_of_advance ha
  have hle := steps_le_iterate_next m' n
  rw [Function.iterate_succ_apply, next_of_advance_ok hs ha]
  omega

theorem iterate_next_steps (n : Nat) (m : Machine) :
    next^[(next^[n] m).steps - m.steps] m = next^[n] m := by
  induction n generalizing m with
  | zero =>
      rw [Function.iterate_zero_apply, Nat.sub_self]
      rfl
  | succ n ih =>
      rcases next_eq_or m with heq | ⟨hs, hadv⟩
      · rw [steps_sub_of_next_eq heq, Function.iterate_zero_apply, Function.iterate_fixed heq]
      · rw [steps_sub_of_advance_ok hs (advance_of_advances hadv), Function.iterate_succ_apply,
          Function.iterate_succ_apply]
        exact ih m.next

theorem seen_runFor (observe : σ → Snapshot → σ) (n : Nat) (seen : σ) (m : Machine) :
    (runFor observe n seen m).seen
      = (trace ((next^[n] m).steps - m.steps) m).foldl observe seen := by
  induction n generalizing seen m with
  | zero =>
      rw [Function.iterate_zero_apply, Nat.sub_self]
      rfl
  | succ n ih =>
      by_cases hs : m.status = .running
      · cases ha : m.advance with
        | ok m' =>
            rw [runFor_of_advance_ok observe n seen hs ha, steps_sub_of_advance_ok hs ha, trace,
              List.foldl_cons, next_of_advance_ok hs ha]
            exact ih _ _
        | error f =>
            rw [runFor_of_advance_error observe n seen hs ha,
              steps_sub_of_next_eq (next_of_advance_error hs ha)]
            rfl
      · rw [runFor_of_not_running observe _ seen hs, steps_sub_of_next_eq (next_of_not_running hs)]
        rfl

theorem result_runFor {m : Machine} (hm : m.program.EachRegister (· ≤ Registers.highest))
    (observe : σ → Snapshot → σ) (n : Nat) (seen : σ) :
    (runFor observe n seen m).result = .ok () := by
  induction n generalizing seen m with
  | zero => rfl
  | succ n ih =>
      by_cases hs : m.status = .running
      · obtain ⟨m', ha⟩ := exists_advance_eq_ok hm
        rw [runFor_of_advance_ok observe n seen hs ha]
        apply ih
        rw [(advance_eq_ok_iff.1 ha).program_eq]
        exact hm
      · rw [runFor_of_not_running observe _ seen hs]

theorem result_runLimited {m : Machine} (hs : m.status = .running)
    (hm : m.program.EachRegister (· ≤ Registers.highest)) (budget : Nat)
    (observe : σ → Snapshot → σ) (seen : σ) :
    (m.runLimited budget observe seen).result
      = .ok (m.runLimited budget observe seen).machine.outcome? := by
  rw [runLimited_of_running hs, Run.returning, result_runFor hm]
  rfl

/-- What a run gives, with any budget and any observer. -/
theorem runFor_eq {m : Machine} (hm : m.program.EachRegister (· ≤ Registers.highest))
    (observe : σ → Snapshot → σ) (n : Nat) (seen : σ) :
    runFor observe n seen m =
      ⟨(trace ((next^[n] m).steps - m.steps) m).foldl observe seen, next^[n] m, .ok ()⟩ := by
  calc
    runFor observe n seen m = ⟨(runFor observe n seen m).seen, (runFor observe n seen m).machine,
        (runFor observe n seen m).result⟩ := rfl
    _ = _ := by rw [seen_runFor, machine_runFor, result_runFor hm]

theorem steps_of_running {m : Machine} (hm : m.program.EachRegister (· ≤ Registers.highest))
    {n : Nat} (hs : (next^[n] m).status = .running) : (next^[n] m).steps = m.steps + n := by
  have hbefore : ∀ i < n, (next^[i] m).status = .running := by
    intro i hi
    by_contra h
    rw [iterate_next_of_not_running h (Nat.le_of_lt hi)] at hs
    exact h hs
  exact (takes_of_running hm hbefore).steps_eq (Nat.le_refl n)

theorem runFor_of_running {m : Machine} (hm : m.program.EachRegister (· ≤ Registers.highest))
    {n : Nat} (hs : (next^[n] m).status = .running) (observe : σ → Snapshot → σ) (seen : σ) :
    runFor observe n seen m = ⟨(trace n m).foldl observe seen, next^[n] m, .ok ()⟩ := by
  rw [runFor_eq hm, steps_of_running hm hs, Nat.add_sub_cancel_left]

/-! ## Runs to the halt -/

theorem HaltsIn.iterate_next_of_le {m : Machine} {k n : Nat} {o : Outcome} (h : HaltsIn m k o)
    (hn : k ≤ n) : next^[n] m = next^[k] m :=
  iterate_next_of_not_running (not_running_of_outcome h.outcome) hn

theorem exists_haltsIn {m : Machine} {n : Nat} {o : Outcome}
    (h : (next^[n] m).outcome? = some o) : ∃ k ≤ n, HaltsIn m k o := by
  induction n generalizing m with
  | zero => exact ⟨0, Nat.le_refl 0, (haltsIn_of_outcome h).2 ⟨rfl, rfl⟩⟩
  | succ n ih =>
      by_cases hs : m.status = .running
      · obtain ⟨k, hk, hhalts⟩ := ih h
        exact ⟨k + 1, Nat.succ_le_succ hk, haltsIn_succ.2 ⟨hs, hhalts⟩⟩
      · rw [Function.iterate_fixed (next_of_not_running hs)] at h
        exact ⟨0, Nat.zero_le _, (haltsIn_of_outcome h).2 ⟨rfl, rfl⟩⟩

theorem HaltsIn.steps_iterate_next {m : Machine} {k : Nat} {o : Outcome} (h : HaltsIn m k o)
    (n : Nat) : (next^[n] m).steps = m.steps + min n k := by
  rcases Nat.le_total n k with hn | hk
  · rw [h.steps_eq hn, Nat.min_eq_left hn]
  · rw [h.iterate_next_of_le hk, h.steps_eq (Nat.le_refl k), Nat.min_eq_right hk]

theorem HaltsIn.lt_of_running {m : Machine} {k n : Nat} {o : Outcome} (h : HaltsIn m k o)
    (hs : (next^[n] m).status = .running) : n < k := by
  by_contra hk
  rw [h.iterate_next_of_le (Nat.le_of_not_lt hk)] at hs
  exact not_running_of_outcome h.outcome hs

theorem steps_iterate_next_of_not_haltsIn {m : Machine}
    (hm : m.program.EachRegister (· ≤ Registers.highest)) (h : ∀ k o, ¬ HaltsIn m k o) (n : Nat) :
    (next^[n] m).steps = m.steps + n := by
  apply steps_of_running hm
  by_contra hs
  obtain ⟨o, ho⟩ := exists_outcome_of_not_running hs
  obtain ⟨k, -, hk⟩ := exists_haltsIn ho
  exact h k o hk

theorem HaltsIn.drop {m : Machine} {k : Nat} {o : Outcome} (h : HaltsIn m k o) (j : Nat) :
    HaltsIn (next^[j] m) (k - j) o := by
  rcases Nat.le_total j k with hj | hj
  · constructor
    · intro i hi
      rw [← Function.iterate_add_apply]
      exact h.running (i + j) (by omega)
    · rw [← Function.iterate_add_apply, Nat.sub_add_cancel hj]
      exact h.outcome
  · rw [Nat.sub_eq_zero_of_le hj, h.iterate_next_of_le hj]
    exact (haltsIn_of_outcome h.outcome).2 ⟨rfl, rfl⟩

theorem HaltsIn.runFor_eq {m : Machine} {k n : Nat} {o : Outcome} (h : HaltsIn m k o)
    (hm : m.program.EachRegister (· ≤ Registers.highest)) (hn : k ≤ n)
    (observe : σ → Snapshot → σ) (seen : σ) :
    runFor observe n seen m = ⟨(trace k m).foldl observe seen, next^[k] m, .ok ()⟩ := by
  have hmachine := h.iterate_next_of_le hn
  have hcount : (next^[k] m).steps - m.steps = k := by
    rw [h.steps_eq (Nat.le_refl k), Nat.add_sub_cancel_left]
  rw [Machine.runFor_eq hm, hmachine, hcount]

theorem foldl_record (events : List Snapshot) : events.foldl record #[] = events.toArray := by
  have h : events.foldl (fun trace event => trace.push (id event)) #[]
      = #[] ++ (events.map id).toArray := List.foldl_push_eq_append
  rwa [List.map_id, Array.empty_append] at h

theorem HaltsIn.run_eq {m : Machine} {k : Nat} {o : Outcome} (h : HaltsIn m k o)
    (hm : m.program.EachRegister (· ≤ Registers.highest)) (hk : k ≤ stepLimit - m.steps)
    (observe : σ → Snapshot → σ) (seen : σ) :
    m.run observe seen = ⟨(trace k m).foldl observe seen, next^[k] m, .ok o⟩ := by
  have hrun := h.runFor_eq hm hk observe seen
  unfold runFor at hrun
  simp only [run, hrun, Run.returning, h.outcome]
  rfl

section Start

variable {p : Program} {l : Label} {rs : Registers} {n : Nat}

theorem runLimited_start (hn : n ≤ stepLimit) (p : Program) (l : Label) (rs : Registers)
    (observe : σ → Snapshot → σ) (seen : σ) :
    (start p l rs).runLimited n observe seen
      = (runFor observe n seen (start p l rs)).returning fun m => .ok m.outcome? := by
  have hbudget : min ((start p l rs).steps + n) stepLimit - (start p l rs).steps = n := by
    rw [start_steps]
    omega
  rw [runLimited_of_running (start_status p l rs), hbudget]

theorem HaltsIn.runLimited_start {k : Nat} {o : Outcome} (h : HaltsIn (start p l rs) k o)
    (hp : p.EachRegister (· ≤ Registers.highest)) (hk : k ≤ n) (hn : n ≤ stepLimit)
    (observe : σ → Snapshot → σ) (seen : σ) :
    (start p l rs).runLimited n observe seen
      = ⟨(trace k (start p l rs)).foldl observe seen, next^[k] (start p l rs), .ok (some o)⟩ := by
  rw [Machine.runLimited_start hn, h.runFor_eq hp hk, Run.returning, h.outcome]
  rfl

theorem runLimited_start_of_running (hp : p.EachRegister (· ≤ Registers.highest))
    (hn : n ≤ stepLimit) (hs : (next^[n] (start p l rs)).status = .running)
    (observe : σ → Snapshot → σ) (seen : σ) :
    (start p l rs).runLimited n observe seen
      = ⟨(trace n (start p l rs)).foldl observe seen, next^[n] (start p l rs), .ok none⟩ := by
  rw [runLimited_start hn, runFor_of_running hp hs, Run.returning, outcome?_eq_none_iff.2 hs]
  rfl

end Start

/-! ## Single steps and runs -/

variable {p : Program} {l : Label} {rs : Registers}

theorem HaltsIn.run_iterate_next {k : Nat} {o : Outcome} (h : HaltsIn (start p l rs) k o)
    (hp : p.EachRegister (· ≤ Registers.highest)) (hk : k ≤ stepLimit) (j : Nat) :
    (next^[j] (start p l rs)).run record #[] =
      ⟨((trace k (start p l rs)).drop j).toArray, next^[k] (start p l rs), .ok o⟩ := by
  have hprogram : (next^[j] (start p l rs)).program.EachRegister (· ≤ Registers.highest) := by
    rw [program_iterate_next]
    exact hp
  have hbudget : k - j ≤ stepLimit - (next^[j] (start p l rs)).steps := by
    have hsteps := steps_iterate_next_le (start p l rs) j
    rw [start_steps] at hsteps
    omega
  have hend : next^[k - j] (next^[j] (start p l rs)) = next^[k] (start p l rs) := by
    rw [← Function.iterate_add_apply]
    exact h.iterate_next_of_le (by omega)
  rw [(h.drop j).run_eq hprogram hbudget, foldl_record, hend, drop_trace]

theorem HaltsIn.step_iterate_next {m : Machine} {k i : Nat} {o : Outcome} {e : Snapshot}
    (h : HaltsIn m k o) (he : (trace k m)[i]? = some e) :
    (next^[i] m).step = .ok (e, next^[i + 1] m) := by
  obtain ⟨hi, rfl⟩ := getElem?_trace_eq_some_iff.1 he
  exact h.takes i hi

theorem trace_prefix_runFor {m : Machine} {n n' : Nat}
    (hm : m.program.EachRegister (· ≤ Registers.highest))
    (hs : (next^[n] m).status = .running) (hn : n ≤ n') :
    trace n m <+: (runFor record n' #[] m).seen.toList := by
  have hcount : n ≤ (next^[n'] m).steps - m.steps := by
    obtain ⟨d, rfl⟩ := Nat.exists_eq_add_of_le hn
    have hsteps := steps_of_running hm hs
    have hle := steps_le_iterate_next (next^[n] m) d
    rw [Nat.add_comm, Function.iterate_add_apply]
    omega
  rw [seen_runFor, foldl_record]
  exact trace_prefix hcount m

end Machine

end CounterMachine
