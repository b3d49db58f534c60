import CounterMachine.Proofs.Machine.Steps
import Mathlib.Logic.Function.Basic

/-!
# The textbook machine

The textbook's machine has no row of registers: it has a counter for every
number. `Textbook` is its state and `Textbook.step` its step, and
`Machine.textbook` is what of a machine the textbook sees.

A row of registers is longer the more registers were worked on, and two rows may
differ in length and yet hold the same counters. `textbook_next` says that a
call of `step` is a step of the textbook's machine, so that the length of the row
is never seen.
-/

namespace CounterMachine

@[ext]
structure Textbook where
  label : Label
  status : Status
  counter : Nat → Nat

namespace Textbook

/-- A step by the textbook's rules. A machine that has halted stays as it is. -/
def step (code : Label → Option Instruction) (t : Textbook) : Textbook :=
  match t.status with
  | .halted _ => t
  | .running =>
    match code t.label with
    | none => { t with status := .halted .erroneous }
    | some .halt => { t with status := .halted .proper }
    | some (.increment r next) =>
      { t with label := next, counter := Function.update t.counter r (t.counter r + 1) }
    | some (.decrement r nonzero zero) =>
      if t.counter r = 0 then { t with label := zero }
      else { t with label := nonzero, counter := Function.update t.counter r (t.counter r - 1) }

variable {code : Label → Option Instruction} {t : Textbook}

theorem step_of_not_running (h : t.status ≠ .running) : step code t = t := by
  unfold step
  split
  · rfl
  · next hs => exact absurd hs h

theorem step_undefined (hs : t.status = .running) (h : code t.label = none) :
    step code t = { t with status := .halted .erroneous } := by
  simp only [step, hs, h]

theorem step_halt (hs : t.status = .running) (h : code t.label = some .halt) :
    step code t = { t with status := .halted .proper } := by
  simp only [step, hs, h]

theorem step_increment {r : Nat} {next : Label} (hs : t.status = .running)
    (h : code t.label = some (.increment r next)) :
    step code t =
      { t with label := next, counter := Function.update t.counter r (t.counter r + 1) } := by
  simp only [step, hs, h]

theorem step_decrement_zero {r : Nat} {nonzero zero : Label} (hs : t.status = .running)
    (h : code t.label = some (.decrement r nonzero zero)) (hz : t.counter r = 0) :
    step code t = { t with label := zero } := by
  simp only [step, hs, h, hz, if_true]

theorem step_decrement_nonzero {r : Nat} {nonzero zero : Label} (hs : t.status = .running)
    (h : code t.label = some (.decrement r nonzero zero)) (hz : t.counter r ≠ 0) :
    step code t =
      { t with label := nonzero, counter := Function.update t.counter r (t.counter r - 1) } := by
  simp only [step, hs, h, hz, if_false]

end Textbook

namespace Registers

theorem get_growTo_eq (rs : Registers) (n : Nat) : (rs.growTo n).get = rs.get :=
  funext (get_growTo rs n)

theorem get_modify_eq_update (rs : Registers) (r : Nat) (f : Nat → Nat) :
    (rs.modify r f).get = Function.update rs.get r (f (rs.get r)) := by
  funext j
  rw [get_modify, Function.update_apply]

end Registers

namespace Machine

/-- What the textbook sees of a machine. -/
def textbook (m : Machine) : Textbook := ⟨m.label, m.status, m.registers.get⟩

theorem textbook_of_advances {m m' : Machine} (hs : m.status = .running)
    (h : Advances m m') : m'.textbook = m.textbook.step m.program.get? := by
  cases h with
  | undefined h =>
      rw [Textbook.step_undefined hs h]
      rfl
  | halt h =>
      rw [Textbook.step_halt hs h]
      rfl
  | increment h hr =>
      rw [Textbook.step_increment hs h, textbook, Registers.get_modify_eq_update]
      rfl
  | decrementZero h hr hz =>
      -- the row grows although the register has nothing to take
      rw [Textbook.step_decrement_zero hs h hz, textbook, Registers.get_growTo_eq]
      rfl
  | decrementNonzero h hr hz =>
      rw [Textbook.step_decrement_nonzero hs h hz, textbook, Registers.get_modify_eq_update]
      rfl

theorem textbook_next {m : Machine} (hm : m.program.EachRegister (· ≤ Registers.highest)) :
    m.next.textbook = m.textbook.step m.program.get? := by
  by_cases hs : m.status = .running
  · obtain ⟨m', ha⟩ := exists_advance_eq_ok hm
    rw [next_of_advance_ok hs ha]
    exact textbook_of_advances hs (advance_eq_ok_iff.1 ha)
  · rw [next_of_not_running hs, Textbook.step_of_not_running hs]

theorem textbook_iterate_next {m : Machine}
    (hm : m.program.EachRegister (· ≤ Registers.highest)) (k : Nat) :
    (next^[k] m).textbook = (Textbook.step m.program.get?)^[k] m.textbook := by
  induction k with
  | zero => rfl
  | succ k ih =>
      have hp := program_iterate_next m k
      rw [Function.iterate_succ_apply', textbook_next (hp ▸ hm), hp, ih,
        Function.iterate_succ_apply']

/-- A machine whose program works on registers in range is the textbook's machine:
after any number of calls of `step` it is where the textbook's machine is, and no
call is refused while it runs. Two machines that hold the same counters are not
told apart, however long their rows are. -/
theorem refines_textbook {p : Program} (hp : p.EachRegister (· ≤ Registers.highest)) :
    (∀ (l : Label) (rs : Registers) (k : Nat),
      (next^[k] (start p l rs)).textbook
          = (Textbook.step p.get?)^[k] ⟨l, .running, rs.get⟩
        ∧ ((next^[k] (start p l rs)).status = .running →
            (next^[k] (start p l rs)).step
              = .ok ((next^[k] (start p l rs)).snapshot, next^[k + 1] (start p l rs))))
    ∧ ∀ m₁ m₂ : Machine, m₁.program = p → m₂.program = p → m₁.label = m₂.label →
        m₁.status = m₂.status → (∀ i, m₁.registers.get i = m₂.registers.get i) →
        ∀ k, (next^[k] m₁).label = (next^[k] m₂).label
          ∧ (next^[k] m₁).status = (next^[k] m₂).status
          ∧ ∀ i, (next^[k] m₁).registers.get i = (next^[k] m₂).registers.get i := by
  constructor
  · intro l rs k
    refine ⟨textbook_iterate_next (m := start p l rs) hp k, fun hs => ?_⟩
    have hk : (next^[k] (start p l rs)).program.EachRegister (· ≤ Registers.highest) := by
      rw [program_iterate_next]
      exact hp
    obtain ⟨m', ha⟩ := exists_advance_eq_ok hk
    rw [Function.iterate_succ_apply', next_of_advance_ok hs ha, step_of_advance_ok hs ha]
  · intro m₁ m₂ h₁ h₂ hl hs hget k
    have hview : m₁.textbook = m₂.textbook := Textbook.ext hl hs (funext hget)
    have hk : (next^[k] m₁).textbook = (next^[k] m₂).textbook := by
      rw [textbook_iterate_next (h₁ ▸ hp), textbook_iterate_next (h₂ ▸ hp), h₁, h₂, hview]
    exact ⟨congrArg Textbook.label hk, congrArg Textbook.status hk,
      congrFun (congrArg Textbook.counter hk)⟩

/-- A program that empties the highest register and then comes to a label without an
instruction, from a row of one register and from a row with a zero more. -/
theorem refines_textbook_emptying :
    let p : Program := .ofDefinitions
      [(⟨"a"⟩, .decrement 65535 ⟨"a"⟩ ⟨"b"⟩), (⟨"b"⟩, .increment 0 ⟨"c"⟩)]
    p.EachRegister (· ≤ Registers.highest)
      ∧ (next^[3] (start p ⟨"a"⟩ (.ofList [7]))).textbook
          = (Textbook.step p.get?)^[3] ⟨⟨"a"⟩, .running, (Registers.ofList [7]).get⟩
      ∧ (next^[3] (start p ⟨"a"⟩ (.ofList [7]))).status = .halted .erroneous
      ∧ (∀ i, (Registers.ofList [7]).get i = (Registers.ofList [7, 0]).get i)
      ∧ (next^[3] (start p ⟨"a"⟩ (.ofList [7, 0]))).status = .halted .erroneous
      ∧ ∀ i, (next^[3] (start p ⟨"a"⟩ (.ofList [7]))).registers.get i
          = (next^[3] (start p ⟨"a"⟩ (.ofList [7, 0]))).registers.get i := by
  intro p
  have hp : p.EachRegister (· ≤ Registers.highest) := by
    refine (Program.eachRegister_ofDefinitions_iff (by decide)).2 ?_
    simp [Instruction.register?, Registers.highest]
  have hget : ∀ i, (Registers.ofList [7]).get i = (Registers.ofList [7, 0]).get i := by
    intro i
    rcases i with _ | _ | i <;> simp [Registers.get_ofList]
  have hrun := (refines_textbook hp).1 ⟨"a"⟩ (.ofList [7]) 3
  have htwo := (refines_textbook hp).2 (start p ⟨"a"⟩ (.ofList [7]))
    (start p ⟨"a"⟩ (.ofList [7, 0])) rfl rfl rfl rfl hget 3
  have hstatus : (next^[3] (start p ⟨"a"⟩ (.ofList [7]))).status = .halted .erroneous := by
    decide +kernel
  exact ⟨hp, hrun.1, hstatus, hget, htwo.2.1 ▸ hstatus, htwo.2.2⟩

end Machine

end CounterMachine
