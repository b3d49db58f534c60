import CounterMachine.Proofs.Machine.FirstTime
import CounterMachine.Proofs.Machine.InPlace

/-!
# Runs with a budget

A run with a budget ends with the budget, with the step counter or with the halt,
whichever comes first.  It looks at the counter before each step and compares it with a
limit that was fixed when it began; `taken_spec` says how many steps that makes,
`Machine.runLimited_eq` and `InPlace.runLimited_eq` what they leave, and
`Machine.runLimited_runLimited` that a budget may be spent in two runs.

Main statement: a run with a budget takes exactly these steps and never counts beyond the
end of the counter, `runLimited_counts`.
-/

namespace CounterMachine

variable {σ : Type}

namespace Machine

/-- The steps that a budget allows: no more than the step counter can still count. -/
def allowed (m : Machine) (budget : Nat) : Nat := min budget (stepLimit - m.steps)

/-- The steps that a run with a budget takes: those allowed, or those to the halt if they
are fewer. -/
noncomputable def taken (m : Machine) (budget : Nat) : Nat :=
  (min (m.allowed budget : ℕ∞) m.haltTime).toNat

variable {m : Machine}

theorem taken_spec (m : Machine) (budget : Nat) :
    m.taken budget ≤ m.allowed budget
      ∧ (∀ i < m.taken budget, (next^[i] m).status = .running)
      ∧ (m.taken budget = m.allowed budget ∨ (next^[m.taken budget] m).status ≠ .running)
      ∧ (m.haltTime ≤ m.allowed budget ↔ (next^[m.taken budget] m).status ≠ .running) := by
  obtain ⟨hle, hbefore, hend, -, hhalt⟩ :=
    toNat_min_firstTime (fun k => (next^[k] m).status ≠ .running) (m.allowed budget)
  exact ⟨hle, fun i hi => not_not.1 (hbefore i hi), hend, hhalt⟩

theorem taken_eq {budget : Nat} (h : ∀ i < m.allowed budget, (next^[i] m).status = .running) :
    m.taken budget = m.allowed budget := by
  rw [taken, min_eq_left (coe_le_haltTime_iff.2 h), ENat.toNat_natCast]

theorem takes_taken (hm : m.program.EachRegister (· ≤ Registers.highest)) (budget : Nat) :
    m.Takes (m.taken budget) :=
  takes_of_running hm (taken_spec m budget).2.1

theorem iterate_next_allowed (m : Machine) (budget : Nat) :
    next^[m.allowed budget] m = next^[m.taken budget] m := by
  obtain ⟨hle, -, hend | hend, -⟩ := taken_spec m budget
  · rw [hend]
  · exact iterate_next_of_not_running hend hle

theorem runLimited_eq_runFor (hs : m.status = .running) (budget : Nat)
    (observe : σ → Snapshot → σ) (seen : σ) :
    m.runLimited budget observe seen
      = (runFor observe (m.allowed budget) seen m).returning fun m => .ok m.outcome? := by
  have hbudget : min (m.steps + budget) stepLimit - m.steps = m.allowed budget := by
    rw [allowed]
    omega
  rw [runLimited_of_running hs, hbudget]

theorem runLimited_eq (hs : m.status = .running)
    (hm : m.program.EachRegister (· ≤ Registers.highest)) (budget : Nat)
    (observe : σ → Snapshot → σ) (seen : σ) :
    m.runLimited budget observe seen =
      ⟨(trace (m.taken budget) m).foldl observe seen, next^[m.taken budget] m,
        .ok (next^[m.taken budget] m).outcome?⟩ := by
  have hcount : (next^[m.taken budget] m).steps - m.steps = m.taken budget := by
    rw [(takes_taken hm budget).steps_eq (Nat.le_refl _), Nat.add_sub_cancel_left]
  rw [runLimited_eq_runFor hs, runFor_eq hm, iterate_next_allowed, hcount]
  rfl

theorem runLimited_runLimited (hm : m.program.EachRegister (· ≤ Registers.highest))
    (hs : m.status = .running) (a : Nat) (observe : σ → Snapshot → σ) (seen : σ)
    (hs' : (m.runLimited a observe seen).machine.status = .running) (b : Nat) :
    (m.runLimited a observe seen).machine.runLimited b observe (m.runLimited a observe seen).seen
      = m.runLimited (min (a + b) stepLimit) observe seen := by
  rw [runLimited_eq_runFor hs, Run.machine_returning] at hs'
  have hsteps : (runFor observe (m.allowed a) seen m).machine.steps = m.steps + m.allowed a := by
    rw [machine_runFor] at hs' ⊢
    exact steps_of_running hm hs'
  have hallowed : m.allowed (min (a + b) stepLimit)
      = m.allowed a + (runFor observe (m.allowed a) seen m).machine.allowed b := by
    unfold allowed at hsteps ⊢
    omega
  rw [runLimited_eq_runFor hs a, Run.machine_returning, Run.seen_returning,
    runLimited_eq_runFor hs', runLimited_eq_runFor hs, hallowed,
    runFor_add observe _ _ seen m (result_runFor hm observe _ seen)]

end Machine

namespace InPlace

open Machine (below below_iff next trace)

variable {m : Machine}

theorem runLimited_eq (hs : m.status = .running) (hsteps : m.steps ≤ stepLimit)
    (hm : m.program.EachRegister (· ≤ Registers.highest)) (budget : Nat)
    (observe : σ → Snapshot → σ) (seen : σ) :
    runLimited budget observe seen m =
      .ok (next^[m.taken budget] m).outcome?
        ((trace (m.taken budget) m).foldl observe seen, next^[m.taken budget] m) := by
  have htakes := Machine.takes_taken hm budget
  obtain ⟨hle, hrunning, hend, -⟩ := Machine.taken_spec m budget
  have hcount {i : Nat} (hi : i ≤ m.taken budget) : (next^[i] m).steps = m.steps + i :=
    htakes.steps_eq hi
  rw [Machine.allowed] at hle hend
  have hgo : ∀ i < m.taken budget,
      below (min (m.steps + budget) stepLimit) (next^[i] m) = true := by
    intro i hi
    have hi' := hcount (Nat.le_of_lt hi)
    exact below_iff.2 ⟨hrunning i hi, by omega⟩
  have hstop : below (min (m.steps + budget) stepLimit) (next^[m.taken budget] m) = false := by
    rw [Bool.eq_false_iff, Ne, below_iff]
    rintro ⟨hs', hlt⟩
    have hk := hcount (Nat.le_refl _)
    rcases hend with hend | hend
    · omega
    · exact hend hs'
  rw [runLimited, if_pos hs, loop_of_takes htakes hgo (by omega), loop_of_not hstop]

end InPlace

namespace Machine

/-- **A run with a budget counts exactly.**  It ends after the smallest of the budget, what
the step counter can still count and the number of steps to the halt.  The observer is
handed what each of these steps gives, in order, the machine is the one that as many calls
of `step` leave, no step is taken with a full counter, and there is an outcome just when
the halt is not beyond the budget and the counter.  A run that ends without an outcome may
be continued with another budget, as if it had had both from the beginning. -/
theorem runLimited_counts {m : Machine} (hs : m.status = .running) (hsteps : m.steps ≤ stepLimit)
    (hm : m.program.EachRegister (· ≤ Registers.highest)) (budget : Nat)
    (observe : σ → Snapshot → σ) (seen : σ) :
    let room := min budget (stepLimit - m.steps)
    let k := (min (room : ℕ∞) m.haltTime).toNat
    let told := (trace k m).foldl observe seen
    let last := next^[k] m
    m.runLimited budget observe seen = ⟨told, last, .ok last.outcome?⟩
      ∧ InPlace.runLimited budget observe seen m = .ok last.outcome? (told, last)
      ∧ (trace k m).length = k
      ∧ (∀ i e, (trace k m)[i]? = some e →
          (next^[i] m).step = .ok (e, next^[i + 1] m) ∧ (next^[i] m).steps < stepLimit)
      ∧ last.steps = m.steps + k
      ∧ (last.outcome?.isSome = true ↔ m.haltTime ≤ room)
      ∧ (last.outcome? = none → ∀ b,
          last.runLimited b observe told
              = m.runLimited (min (budget + b) stepLimit) observe seen
            ∧ InPlace.runLimited b observe told last
              = InPlace.runLimited (min (budget + b) stepLimit) observe seen m) := by
  intro room k told last
  have htakes : m.Takes k := takes_taken hm budget
  obtain ⟨hle, -, -, hhalt⟩ := taken_spec m budget
  have hroom : m.steps + k ≤ stepLimit := by
    have hk : k ≤ min budget (stepLimit - m.steps) := hle
    omega
  have hcount {i : Nat} (hi : i ≤ k) : (next^[i] m).steps = m.steps + i := htakes.steps_eq hi
  have hrun : m.runLimited budget observe seen = ⟨told, last, .ok last.outcome?⟩ :=
    runLimited_eq hs hm budget observe seen
  refine ⟨hrun, InPlace.runLimited_eq hs hsteps hm budget observe seen, length_trace k m,
    fun i e he => ?_, hcount (Nat.le_refl k), ?_, fun hlast b => ?_⟩
  · obtain ⟨hi, rfl⟩ := getElem?_trace_eq_some_iff.1 he
    have hi' := hcount (Nat.le_of_lt hi)
    exact ⟨htakes i hi, by omega⟩
  · rw [← Option.ne_none_iff_isSome, Ne, outcome?_eq_none_iff]
    exact hhalt.symm
  · have hs' : last.status = .running := outcome?_eq_none_iff.1 hlast
    have hm' : last.program.EachRegister (· ≤ Registers.highest) :=
      (program_iterate_next m k).symm ▸ hm
    have hsteps' : last.steps ≤ stepLimit := by
      have hk : last.steps = m.steps + k := hcount (Nat.le_refl k)
      omega
    have hboth := runLimited_runLimited hm hs budget observe seen (hrun ▸ hs') b
    rw [hrun] at hboth
    refine ⟨hboth, ?_⟩
    -- what is left in place can be read off what the runs give
    rw [runLimited_eq hs' hm', runLimited_eq hs hm, Run.mk.injEq] at hboth
    obtain ⟨htold, hmachine, -⟩ := hboth
    rw [InPlace.runLimited_eq hs' hsteps' hm', InPlace.runLimited_eq hs hsteps hm, htold, hmachine]

/-- A loop that has two steps left to count takes them with a budget of five, and with a
budget of one and then any other. -/
theorem runLimited_counts_full :
    let p : Program := .ofDefinitions [(⟨"a"⟩, .increment 0 ⟨"a"⟩)]
    let m : Machine := { start p ⟨"a"⟩ .empty with steps := stepLimit - 2 }
    let first : Machine := { m with registers := .ofList [1], steps := stepLimit - 1 }
    let last : Machine := { m with registers := .ofList [2], steps := stepLimit }
    let told := #[Snapshot.mk (stepLimit - 2) ⟨"a"⟩ .empty]
    let all := told.push ⟨stepLimit - 1, ⟨"a"⟩, .ofList [1]⟩
    m.status = .running ∧ m.steps ≤ stepLimit
      ∧ m.program.EachRegister (· ≤ Registers.highest)
      ∧ InPlace.runLimited 5 record #[] m = .ok none (all, last)
      ∧ InPlace.runLimited 1 record #[] m = .ok none (told, first)
      ∧ InPlace.runLimited stepLimit record told first = .ok none (all, last) := by
  intro p m first last told all
  have hs : m.status = .running := rfl
  have hsteps : m.steps ≤ stepLimit := by
    decide
  have hm : m.program.EachRegister (· ≤ Registers.highest) := by
    refine (Program.eachRegister_ofDefinitions_iff (by decide)).2 ?_
    simp [Instruction.register?, Registers.highest]
  have hrunning : ∀ i < 2, (next^[i] m).status = .running := by
    decide +kernel
  have hone : m.taken 1 = 1 := taken_eq fun i hi => hrunning i (Nat.lt_succ_of_lt hi)
  have htwo {budget : Nat} (h : m.allowed budget = 2) : m.taken budget = 2 :=
    (taken_eq (h ▸ hrunning)).trans h
  have hshort : next^[1] m = first ∧ (trace 1 m).foldl record #[] = told := by
    decide +kernel
  have hlong : next^[2] m = last ∧ (trace 2 m).foldl record #[] = all := by
    decide +kernel
  obtain ⟨-, hfive, -⟩ := runLimited_counts hs hsteps hm 5 record #[]
  obtain ⟨-, hfirst, -, -, -, -, hsplit⟩ := runLimited_counts hs hsteps hm 1 record #[]
  obtain ⟨-, hwhole, -⟩ := runLimited_counts hs hsteps hm stepLimit record #[]
  rw [← allowed, ← taken] at hfive hfirst hsplit hwhole
  rw [htwo (by decide), hlong.1, hlong.2] at hfive hwhole
  rw [hone, hshort.1, hshort.2] at hfirst hsplit
  exact ⟨hs, hsteps, hm, hfive, hfirst, ((hsplit rfl stepLimit).2).trans hwhole⟩

end Machine

end CounterMachine
