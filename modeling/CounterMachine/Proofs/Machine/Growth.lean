import CounterMachine.Proofs.Machine.Runs
import CounterMachine.Proofs.Source.Writable
import CounterMachine.Source.Listing

/-!
# Growth of the registers

The row of registers grows when an instruction works on a register beyond its end,
and at no other time.  Its length is therefore known from what was seen since the
last reset: `Machine.Session` says which machines a session of calls leads to and what
the calls have seen, `Program.touched` which registers the instructions seen there
work on.

A loaded program works on registers in range only, so no call on it ends in a fault.

Main statement: in any session with a loaded program no call fails and the row is as
long as the start and the registers touched since the last reset make it,
`session_bounded`.
-/

namespace CounterMachine

namespace Registers

def lengthFor : Option Nat → Nat
  | none => 0
  | some r => r + 1

theorem lengthFor_max?_le_iff {rs : List Nat} {n : Nat} :
    lengthFor rs.max? ≤ n ↔ ∀ r ∈ rs, r < n := by
  cases h : rs.max? with
  | none =>
      rw [List.max?_eq_none_iff] at h
      simp [h, lengthFor]
  | some top =>
      obtain ⟨hmem, hle⟩ := List.max?_eq_some_iff.1 h
      constructor
      · intro htop r hr
        exact Nat.lt_of_le_of_lt (hle r hr) htop
      · intro hall
        exact hall top hmem

theorem lt_lengthFor_max?_of_mem {rs : List Nat} {r : Nat} (h : r ∈ rs) :
    r < lengthFor rs.max? :=
  lengthFor_max?_le_iff.1 (Nat.le_refl _) r h

theorem lengthFor_max?_append (a b : List Nat) :
    lengthFor (a ++ b).max? = max (lengthFor a.max?) (lengthFor b.max?) := by
  refine eq_of_forall_ge_iff fun n => ?_
  rw [Nat.max_le, lengthFor_max?_le_iff, lengthFor_max?_le_iff, lengthFor_max?_le_iff]
  exact List.forall_mem_append

end Registers

namespace Program

open Registers (lengthFor)

/-- The registers that the instructions at the labels of some events work on. -/
def touched (p : Program) (events : List Snapshot) : List Nat :=
  events.filterMap fun e => (p.get? e.label).bind Instruction.register?

theorem touched_singleton (p : Program) (e : Snapshot) :
    p.touched [e] = ((p.get? e.label).bind Instruction.register?).toList := by
  unfold touched
  cases h : (p.get? e.label).bind Instruction.register? <;> simp [h]

theorem touched_append (p : Program) (a b : List Snapshot) :
    p.touched (a ++ b) = p.touched a ++ p.touched b :=
  List.filterMap_append

theorem exists_get?_of_mem_touched {p : Program} {events : List Snapshot} {r : Nat}
    (h : r ∈ p.touched events) : ∃ l i, p.get? l = some i ∧ i.register? = some r := by
  obtain ⟨e, -, he⟩ := List.mem_filterMap.1 h
  obtain ⟨i, hi, hr⟩ := Option.bind_eq_some_iff.1 he
  exact ⟨e.label, i, hi, hr⟩

theorem lt_lengthFor_highestRegister? {p : Program} {l : Label} {i : Instruction} {r : Nat}
    (hi : p.get? l = some i) (hr : i.register? = some r) : r < lengthFor p.highestRegister? := by
  apply Registers.lt_lengthFor_max?_of_mem
  have hmem : (l, i) ∈ p.table.toList := Std.ExtTreeMap.mem_toList_iff_getElem?_eq_some.2 hi
  exact List.mem_filterMap.2 ⟨(l, i), hmem, hr⟩

theorem lengthFor_touched_le (p : Program) (events : List Snapshot) :
    lengthFor (p.touched events).max? ≤ lengthFor p.highestRegister? := by
  rw [Registers.lengthFor_max?_le_iff]
  intro r hr
  obtain ⟨l, i, hi, hregister⟩ := exists_get?_of_mem_touched hr
  exact lt_lengthFor_highestRegister? hi hregister

end Program

namespace Machine

open Registers (lengthFor)

theorem Advances.size_eq {m m' : Machine} (h : Advances m m') :
    m'.registers.size = max m.registers.size
      (lengthFor (m.program.touched [m.snapshot]).max?) := by
  have htouched : m.program.touched [m.snapshot]
      = (m.current?.bind Instruction.register?).toList := m.program.touched_singleton m.snapshot
  rw [htouched]
  cases h with
  | undefined h =>
      rw [h]
      exact (Nat.max_zero _).symm
  | halt h =>
      rw [h]
      exact (Nat.max_zero _).symm
  | increment h hr =>
      rw [h]
      exact Registers.size_modify _ _ _
  | decrementZero h hr hz =>
      rw [h]
      exact Registers.size_growTo _ _
  | decrementNonzero h hr hz =>
      rw [h]
      exact Registers.size_modify _ _ _

theorem size_le_next (m : Machine) : m.registers.size ≤ m.next.registers.size := by
  rcases next_eq_or m with h | ⟨-, h⟩
  · exact Nat.le_of_eq (congrArg (·.registers.size) h.symm)
  · rw [h.size_eq]
    exact Nat.le_max_left _ _

theorem size_le_iterate_next (m : Machine) (k : Nat) :
    m.registers.size ≤ (next^[k] m).registers.size := by
  induction k with
  | zero => exact Nat.le_refl _
  | succ k ih =>
      rw [Function.iterate_succ_apply']
      exact Nat.le_trans ih (size_le_next _)

/-- A row of steps makes the row of registers as long as the registers they touch need. -/
theorem size_iterate_next {m : Machine} {k : Nat} (h : (next^[k] m).steps = m.steps + k) :
    (next^[k] m).registers.size = max m.registers.size
      (lengthFor (m.program.touched (trace k m)).max?) := by
  induction k with
  | zero => exact (Nat.max_zero _).symm
  | succ k ih =>
      have hbefore : (next^[k] m).steps = m.steps + k := by
        have hle := steps_iterate_next_le m k
        have hnext := steps_next_le (next^[k] m)
        rw [Function.iterate_succ_apply'] at h
        omega
      have hadv : Advances (next^[k] m) (next^[k] m).next := by
        rcases next_eq_or (next^[k] m) with heq | ⟨-, hadv⟩
        · rw [Function.iterate_succ_apply', heq] at h
          omega
        · exact hadv
      have hlast : trace (k + 1) m = trace k m ++ [(next^[k] m).snapshot] := trace_add k 1 m
      rw [Function.iterate_succ_apply', hadv.size_eq, ih hbefore, program_iterate_next, hlast,
        Program.touched_append, Registers.lengthFor_max?_append, Nat.max_assoc]

/-! ## Sessions -/

/-- The machines that calls of `step`, runs with a budget and resets lead to, each with
what the calls since the last reset have seen.  A call that is refused changes nothing. -/
inductive Session (m₀ : Machine) : List Snapshot → Machine → Prop
  | start : Session m₀ [] m₀
  | step {seen : List Snapshot} {m m' : Machine} {event : Snapshot} (h : Session m₀ seen m)
      (hs : m.step = .ok (event, m')) : Session m₀ (seen ++ [event]) m'
  | runLimited {seen : List Snapshot} {m : Machine} {budget : Nat} (h : Session m₀ seen m) :
      Session m₀ (seen ++ (m.runLimited budget record #[]).seen.toList)
        (m.runLimited budget record #[]).machine
  | reset {seen : List Snapshot} {m : Machine} (h : Session m₀ seen m) : Session m₀ [] m.reset

theorem Session.eq_trace {p : Program} {l : Label} {rs : Registers} {seen : List Snapshot}
    {m : Machine} (h : Session (Machine.start p l rs) seen m) :
    seen = trace m.steps (Machine.start p l rs)
      ∧ m = Machine.next^[m.steps] (Machine.start p l rs) := by
  induction h with
  | start => exact ⟨rfl, rfl⟩
  | @step seen m m' event _ hs ih =>
      obtain ⟨hseen, hm⟩ := ih
      obtain ⟨hrunning, rfl, ha⟩ := step_eq_ok_iff.1 hs
      refine ⟨?_, iterate_next_of_advance_ok hm hrunning ha⟩
      rw [steps_of_advance ha, trace_add, ← hm, hseen]
      rfl
  | @runLimited seen m budget _ ih =>
      obtain ⟨hseen, hm⟩ := ih
      obtain ⟨n, hevents, hmachine⟩ : ∃ n,
          (m.runLimited budget record #[]).seen = (runFor record n #[] m).seen
            ∧ (m.runLimited budget record #[]).machine = (runFor record n #[] m).machine := by
        by_cases hs : m.status = .running
        · rw [runLimited_of_running hs]
          exact ⟨_, rfl, rfl⟩
        · rw [runLimited_of_not_running hs]
          exact ⟨0, rfl, rfl⟩
      rw [hevents, hmachine]
      obtain ⟨d, hd⟩ := Nat.exists_eq_add_of_le (steps_le_iterate_next m n)
      have hcount : (Machine.next^[n] m).steps - m.steps = d := by
        rw [hd, Nat.add_sub_cancel_left]
      have hend : Machine.next^[d] m = Machine.next^[n] m := by
        rw [← hcount, iterate_next_steps]
      rw [machine_runFor, seen_runFor, foldl_record, hcount, hd, List.toList_toArray, trace_add,
        ← hm, hseen, Nat.add_comm, Function.iterate_add_apply, ← hm]
      exact ⟨rfl, hend.symm⟩
  | @reset seen m _ ih =>
      have hreset : m.reset = Machine.start p l rs := by
        rw [ih.2, reset_iterate_next, reset_start]
      rw [hreset]
      exact ⟨rfl, rfl⟩

theorem Session.size_eq {p : Program} {l : Label} {rs : Registers} {seen : List Snapshot}
    {m : Machine} (h : Session (Machine.start p l rs) seen m) :
    m.registers.size = max rs.size (lengthFor (p.touched seen).max?) := by
  obtain ⟨hseen, hm⟩ := h.eq_trace
  have hsteps : (Machine.next^[m.steps] (Machine.start p l rs)).steps
      = (Machine.start p l rs).steps + m.steps := by
    rw [← hm, start_steps, Nat.zero_add]
  have hsize := size_iterate_next hsteps
  rwa [← hm, ← hseen] at hsize

end Machine

namespace Setup

open Registers (lengthFor)
open Machine (Session)

/-- What holds of the machine of a setup at any moment of a session, when `seen` was
seen since the last reset. -/
structure Safe (setup : Setup) (seen : List Snapshot) (m : Machine) : Prop where
  step : m.status = .running →
    ∃ m', m.step = .ok (m.snapshot, m') ∧ m.registers.size ≤ m'.registers.size
  runLimited : m.status = .running → ∀ (σ : Type) (budget : Nat) (observe : σ → Snapshot → σ)
    (start : σ), let run := m.runLimited budget observe start
      run.result = .ok run.machine.outcome? ∧ m.registers.size ≤ run.machine.registers.size
  definitions : ∃ defs, m.program.definitions? = some defs
  touched : ∀ r ∈ setup.program.touched seen, r < m.registers.size
  size_eq : m.registers.size =
    max setup.config.registers.size (lengthFor (setup.program.touched seen).max?)
  size_le : m.registers.size ≤
    max setup.config.registers.size (lengthFor setup.program.highestRegister?)

/-- **A loaded program never fails and its registers are bounded.**  It can be listed,
its undefined targets can be found, and at any moment of a session of steps, runs and
resets no call ends in a fault and the row of registers is as long as the initial one,
or as the highest register touched since the last reset needs. -/
theorem session_bounded {source : String} {setup : Setup} (h : load source = .ok setup) :
    (∃ text, setup.listing? = some text)
      ∧ (∃ missing, setup.program.undefinedTargets? = some missing)
      ∧ ∀ seen m, setup.machine.Session seen m → setup.Safe seen m := by
  obtain ⟨-, defs, hn, -, hp⟩ := writable_iff.1 (writable_of_load h)
  have hdefs : setup.program.definitions? = some defs := by
    rw [hp]
    exact Program.definitions?_ofDefinitions hn
  have hrange : setup.program.EachRegister (· ≤ Registers.highest) :=
    (writable_of_load h).registers
  refine ⟨⟨_, by rw [listing?, hdefs, Option.map_some]⟩,
    ⟨_, by rw [Program.undefinedTargets?, hdefs, Option.map_some]⟩, fun seen m hsession => ?_⟩
  have hprogram : m.program = setup.program := by
    rw [hsession.eq_trace.2]
    exact Machine.program_iterate_next setup.machine m.steps
  have hm : m.program.EachRegister (· ≤ Registers.highest) := hprogram ▸ hrange
  have hsize : m.registers.size =
      max setup.config.registers.size (lengthFor (setup.program.touched seen).max?) :=
    hsession.size_eq
  constructor
  case step =>
    intro hs
    obtain ⟨m', ha⟩ := Machine.exists_advance_eq_ok hm
    refine ⟨m', Machine.step_of_advance_ok hs ha, ?_⟩
    rw [← Machine.next_of_advance_ok hs ha]
    exact Machine.size_le_next m
  case runLimited =>
    intro hs σ budget observe start run
    refine ⟨Machine.result_runLimited hs hm budget observe start, ?_⟩
    rw [Machine.machine_runLimited]
    exact Machine.size_le_iterate_next m _
  case definitions => exact ⟨defs, hprogram ▸ hdefs⟩
  case touched =>
    intro r hr
    rw [hsize]
    exact Nat.lt_of_lt_of_le (Registers.lt_lengthFor_max?_of_mem hr) (Nat.le_max_right _ _)
  case size_eq => exact hsize
  case size_le =>
    have hle := setup.program.lengthFor_touched_le seen
    rw [hsize]
    omega

/-- A decrement that finds nothing to take makes the row longer, and a reset makes it
short again before a run goes the same way and further. -/
theorem session_bounded_growing :
    let setup : Setup := ⟨⟨⟨"a"⟩, .ofList [1]⟩, .ofDefinitions
      [(⟨"a"⟩, .decrement 2 ⟨"a"⟩ ⟨"b"⟩), (⟨"b"⟩, .increment 4 ⟨"c"⟩), (⟨"c"⟩, .halt)]⟩
    let short := (Machine.next^[1] setup.machine).reset
    let long := Machine.next^[2] setup.machine
    let seen := Machine.trace 2 setup.machine
    load "a, 1\na: dec(r2), a, b\nb: inc(r4), c\nc: halt\n" = .ok setup
      ∧ setup.machine.Session [] short ∧ setup.Safe [] short ∧ short.registers.size = 1
      ∧ setup.machine.Session seen long ∧ setup.Safe seen long ∧ long.registers.size = 5 := by
  intro setup short long seen
  have hload : load "a, 1\na: dec(r2), a, b\nb: inc(r4), c\nc: halt\n" = .ok setup := by
    decide +kernel
  obtain ⟨-, -, hsafe⟩ := session_bounded hload
  have hrange : setup.machine.program.EachRegister (· ≤ Registers.highest) :=
    (writable_of_load hload).registers
  have hstep : setup.machine.step
      = .ok (setup.machine.snapshot, Machine.next^[1] setup.machine) := by
    decide +kernel
  have hshort : setup.machine.Session [] short := (Session.start.step hstep).reset
  have hrun : short.runLimited 2 Machine.record #[] = ⟨seen.toArray, long, .ok none⟩ := by
    have hreset : short = setup.machine := Machine.reset_iterate_next setup.machine 1
    have hs : long.status = .running := by
      decide +kernel
    rw [hreset, ← Machine.foldl_record]
    exact Machine.runLimited_start_of_running hrange (by decide) hs _ _
  have hlong : setup.machine.Session seen long := by
    have hsession : setup.machine.Session
        ([] ++ (short.runLimited 2 Machine.record #[]).seen.toList)
        (short.runLimited 2 Machine.record #[]).machine := hshort.runLimited
    rwa [hrun] at hsession
  exact ⟨hload, hshort, hsafe [] short hshort, by decide +kernel, hlong, hsafe seen long hlong,
    by decide +kernel⟩

end Setup

end CounterMachine
