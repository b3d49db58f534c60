import CounterMachine.Proofs.Machine.Halting
import CounterMachine.Proofs.Machine.Textbook
import Mathlib.Control.Monad.Basic

/-!
# The law of traces

What was seen on the way to a halt tells the whole run: each snapshot follows from
the one before by the instruction at its label, and the last one shows why and with
what the machine halted.

`Snapshot.Follows` is one instruction as a relation of two snapshots, and
`LawfulTrace` the law.  Main statement: what an execution gives is lawful,
`execute_lawful`.
-/

namespace CounterMachine

/-- The second snapshot shows what the instruction at the label of the first made of
it.  The row is as long as the instruction's register needs in every case. -/
inductive Snapshot.Follows (p : Program) (a b : Snapshot) : Prop
  | increment {r : Nat} {next : Label} (code : p.get? a.label = some (.increment r next))
      (label : b.label = next) (size : b.registers.size = max a.registers.size (r + 1))
      (get : b.registers.get = Function.update a.registers.get r (a.registers.get r + 1))
  | decrementZero {r : Nat} {nonzero zero : Label}
      (code : p.get? a.label = some (.decrement r nonzero zero)) (value : a.registers.get r = 0)
      (label : b.label = zero) (size : b.registers.size = max a.registers.size (r + 1))
      (get : b.registers.get = a.registers.get)
  | decrementNonzero {r : Nat} {nonzero zero : Label}
      (code : p.get? a.label = some (.decrement r nonzero zero)) (value : a.registers.get r ≠ 0)
      (label : b.label = nonzero) (size : b.registers.size = max a.registers.size (r + 1))
      (get : b.registers.get = Function.update a.registers.get r (a.registers.get r - 1))

/-- The last snapshot before a halt shows why and with what the machine halted. -/
structure Outcome.EndsAt (o : Outcome) (p : Program) (e : Snapshot) : Prop where
  label : o.label = e.label
  registers : o.registers = e.registers
  step : o.finalStep = e.step
  kind : o.kind = .proper ∧ p.get? e.label = some .halt
    ∨ o.kind = .erroneous ∧ p.get? e.label = none

/-- Snapshots from a start to an outcome, with nothing left out. -/
structure LawfulTrace (p : Program) (l : Label) (rs : Registers) (o : Outcome)
    (events : List Snapshot) : Prop where
  length_eq : events.length = o.stepCount
  step_eq : ∀ (i : Nat) (e : Snapshot), events[i]? = some e → e.step = i
  first : ∃ e, events.head? = some e ∧ e.label = l ∧ e.registers = rs
  follows : ∀ (i : Nat) (a b : Snapshot), events[i]? = some a → events[i + 1]? = some b → a.Follows p b
  last : ∃ e, events.getLast? = some e ∧ o.EndsAt p e

namespace Machine

theorem Advances.follows {m m' : Machine} (h : Advances m m') (hs : m'.status = .running) :
    m.snapshot.Follows m.program m'.snapshot := by
  cases h with
  | undefined h => cases hs
  | halt h => cases hs
  | increment h hr =>
      exact .increment h rfl (Registers.size_modify _ _ _) (Registers.get_modify_eq_update _ _ _)
  | decrementZero h hr hz =>
      exact .decrementZero h hz rfl (Registers.size_growTo _ _) (Registers.get_growTo_eq _ _)
  | decrementNonzero h hr hz =>
      exact .decrementNonzero h hz rfl (Registers.size_modify _ _ _)
        (Registers.get_modify_eq_update _ _ _)

theorem Advances.endsAt {m m' : Machine} (h : Advances m m') (hm : m.status = .running)
    {o : Outcome} (ho : m'.outcome? = some o) :
    o.stepCount = m.steps + 1 ∧ o.EndsAt m.program m.snapshot := by
  have hs := not_running_of_outcome ho
  cases h with
  | undefined h =>
      cases ho
      exact ⟨rfl, rfl, rfl, rfl, Or.inr ⟨rfl, h⟩⟩
  | halt h =>
      cases ho
      exact ⟨rfl, rfl, rfl, rfl, Or.inl ⟨rfl, h⟩⟩
  | increment h hr => exact absurd hm hs
  | decrementZero h hr hz => exact absurd hm hs
  | decrementNonzero h hr hz => exact absurd hm hs

theorem HaltsIn.lawfulTrace {p : Program} {l : Label} {rs : Registers} {k : Nat} {o : Outcome}
    (h : HaltsIn (start p l rs) k o) : LawfulTrace p l rs o (trace k (start p l rs)) := by
  have hpos : 0 < k := h.pos rfl
  obtain ⟨k, rfl⟩ : ∃ j, k = j + 1 := ⟨k - 1, by omega⟩
  have hsteps : ∀ i ≤ k, (next^[i] (start p l rs)).steps = i := by
    intro i hi
    rw [h.steps_eq (Nat.le_succ_of_le hi), start_steps, Nat.zero_add]
  have hprogram : ∀ i, (next^[i] (start p l rs)).program = p :=
    program_iterate_next (start p l rs)
  obtain ⟨hcount, hends⟩ :=
    (h.advances (Nat.lt_succ_self k)).endsAt (h.running k (Nat.lt_succ_self k)) h.outcome
  constructor
  · rw [length_trace, hcount, hsteps k (Nat.le_refl k)]
  · intro i e he
    obtain ⟨hi, rfl⟩ := getElem?_trace_eq_some_iff.1 he
    exact hsteps i (Nat.le_of_lt_succ hi)
  · exact ⟨_, rfl, rfl, rfl⟩
  · intro i a b ha hb
    obtain ⟨hi, rfl⟩ := getElem?_trace_eq_some_iff.1 ha
    obtain ⟨hi', rfl⟩ := getElem?_trace_eq_some_iff.1 hb
    have hfollows := (h.advances hi).follows (h.running (i + 1) hi')
    rwa [hprogram i] at hfollows
  · refine ⟨_, getLast?_trace_succ k _, ?_⟩
    rwa [hprogram k] at hends

end Machine

/-- **What an execution gives is a lawful trace**, from its label and registers to its
outcome. -/
theorem Program.execute_lawful {p : Program} {l : Label} {rs : Registers} {o : Outcome}
    {events : List Snapshot} (h : p.execute l rs = .ok (o, events)) :
    LawfulTrace p l rs o events := by
  obtain ⟨k, -, hk, rfl⟩ := Program.execute_eq_ok_iff.1 h
  exact hk.lawfulTrace

/-- One is moved from a register to one beyond the row, and then a label is undefined. -/
theorem Program.execute_lawful_moving :
    let p : Program := .ofDefinitions
      [(⟨"a"⟩, .decrement 0 ⟨"b"⟩ ⟨"c"⟩), (⟨"b"⟩, .increment 2 ⟨"a"⟩)]
    let o : Outcome := ⟨.erroneous, 4, ⟨"c"⟩, .ofList [0, 0, 1]⟩
    let events : List Snapshot :=
      [⟨0, ⟨"a"⟩, .ofList [1]⟩, ⟨1, ⟨"b"⟩, .ofList [0]⟩, ⟨2, ⟨"a"⟩, .ofList [0, 0, 1]⟩,
        ⟨3, ⟨"c"⟩, .ofList [0, 0, 1]⟩]
    p.execute ⟨"a"⟩ (.ofList [1]) = .ok (o, events)
      ∧ LawfulTrace p ⟨"a"⟩ (.ofList [1]) o events := by
  intro p o events
  have h : p.execute ⟨"a"⟩ (.ofList [1]) = .ok (o, events) := by
    decide +kernel
  exact ⟨h, Program.execute_lawful h⟩

end CounterMachine
