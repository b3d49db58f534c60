import CounterMachine.Proofs.Machine.Runs
import CounterMachine.Proofs.Machine.Textbook

/-!
# Accounts of the registers

What a register holds can be told from what was seen on the way: it is what it held at
the start, with one more for each event at an instruction that adds to it, and one less
for each event at an instruction that takes from it and that shows something to take.

`Program.adds` and `Program.removes` are the two kinds of event.  `Advances.get_add` is the
account of one step, with a case for each instruction, and `Takes.get_add` that of a row
of steps.

Main statement: the account of each register holds at any moment of a run and is never
overdrawn, and a decrement goes where what it finds in its register sends it,
`registers_accounted`.
-/

namespace CounterMachine

namespace Program

/-- The instruction at the label of an event adds to a register. -/
def adds (p : Program) (r : Nat) (e : Snapshot) : Bool :=
  match p.get? e.label with
  | some (.increment s _) => s == r
  | _ => false

/-- The instruction at the label of an event takes from a register, and the event shows
that there is something to take. -/
def removes (p : Program) (r : Nat) (e : Snapshot) : Bool :=
  match p.get? e.label with
  | some (.decrement s _ _) => s == r && decide (0 < e.registers.get r)
  | _ => false

end Program

namespace Machine

theorem Advances.get_add {m m' : Machine} (h : Advances m m') (r : Nat) :
    m'.registers.get r + (if m.program.removes r m.snapshot then 1 else 0)
      = m.registers.get r + (if m.program.adds r m.snapshot then 1 else 0) := by
  unfold Program.removes Program.adds
  cases h with
  | undefined h =>
      have hcode : m.program.get? m.snapshot.label = none := h
      simp only [hcode, Bool.false_eq_true, if_false]
  | halt h =>
      have hcode : m.program.get? m.snapshot.label = some .halt := h
      simp only [hcode, Bool.false_eq_true, if_false]
  | @increment s next h hs =>
      have hcode : m.program.get? m.snapshot.label = some (.increment s next) := h
      simp only [hcode, Registers.get_modify, beq_iff_eq, Bool.false_eq_true, if_false]
      by_cases heq : s = r
      · subst heq
        simp
      · rw [if_neg (Ne.symm heq), if_neg heq]
  | @decrementZero s nonzero zero h hs hz =>
      have hcode : m.program.get? m.snapshot.label = some (.decrement s nonzero zero) := h
      have hnothing : ¬ (s = r ∧ 0 < m.snapshot.registers.get r) := by
        rintro ⟨rfl, hpos⟩
        exact absurd hz (Nat.ne_of_gt hpos)
      simp only [hcode, Registers.get_growTo, Bool.and_eq_true, beq_iff_eq, decide_eq_true_eq,
        if_neg hnothing, Bool.false_eq_true, if_false]
  | @decrementNonzero s nonzero zero h hs hz =>
      have hcode : m.program.get? m.snapshot.label = some (.decrement s nonzero zero) := h
      simp only [hcode, Registers.get_modify, Bool.and_eq_true, beq_iff_eq, decide_eq_true_eq,
        Bool.false_eq_true, if_false]
      by_cases heq : s = r
      · subst heq
        have hpos : 0 < m.snapshot.registers.get s := Nat.pos_of_ne_zero hz
        rw [if_pos rfl, if_pos ⟨rfl, hpos⟩]
        omega
      · rw [if_neg (Ne.symm heq), if_neg fun hand => heq hand.1]

theorem Advances.label_of_decrement {m m' : Machine} (h : Advances m m') {r : Nat}
    {nonzero zero : Label} (hcode : m.current? = some (.decrement r nonzero zero)) :
    m'.label = if 0 < m.registers.get r then nonzero else zero := by
  cases h with
  | undefined h =>
      rw [hcode] at h
      cases h
  | halt h =>
      rw [hcode] at h
      cases h
  | increment h hr =>
      rw [hcode] at h
      cases h
  | decrementZero h hr hz =>
      rw [hcode] at h
      cases h
      rw [hz, if_neg (Nat.lt_irrefl 0)]
  | decrementNonzero h hr hz =>
      rw [hcode] at h
      cases h
      rw [if_pos (Nat.pos_of_ne_zero hz)]

theorem Takes.advances {m : Machine} {k i : Nat} (h : m.Takes k) (hi : i < k) :
    Advances (next^[i] m) (next^[i + 1] m) :=
  advance_eq_ok_iff.1 (step_eq_ok_iff.1 (h i hi)).2.2

theorem Takes.get_add {m : Machine} {k : Nat} (h : m.Takes k) (r : Nat) :
    (next^[k] m).registers.get r + (trace k m).countP (m.program.removes r)
      = m.registers.get r + (trace k m).countP (m.program.adds r) := by
  induction k generalizing m with
  | zero => rfl
  | succ k ih =>
      have hstep : Advances m m.next := h.advances (Nat.succ_pos k)
      have hfirst := hstep.get_add r
      have hrest := ih (takes_succ.1 h).2
      rw [program_next] at hrest
      rw [Function.iterate_succ_apply, trace, List.countP_cons, List.countP_cons]
      omega

/-- **What a register holds is accounted for by what was seen.**  After any number of steps
of a run it is what it held at the start, with the events that added to it and without
those that took from it, which never were too many.  The next label after a decrement is
its first target when its register held something in the event, and the second otherwise. -/
theorem registers_accounted {p : Program} (hp : p.EachRegister (· ≤ Registers.highest))
    {l : Label} {rs : Registers} {k : Nat}
    (hk : ∀ i < k, (next^[i] (start p l rs)).status = .running) :
    let m := start p l rs
    let events := trace k m
    (∀ r, ∀ j ≤ k,
        (events.take j).countP (p.removes r) ≤ rs.get r + (events.take j).countP (p.adds r)
          ∧ (next^[j] m).registers.get r
            = rs.get r + (events.take j).countP (p.adds r)
              - (events.take j).countP (p.removes r))
      ∧ (∀ (i : Nat) (e : Snapshot) (r : Nat) (nonzero zero : Label), events[i]? = some e →
          p.get? e.label = some (.decrement r nonzero zero) →
          (next^[i + 1] m).label = if 0 < e.registers.get r then nonzero else zero)
      ∧ (k ≤ stepLimit → m.runLimited k record #[]
          = ⟨events.toArray, next^[k] m, .ok (next^[k] m).outcome?⟩) := by
  intro m events
  have htakes : m.Takes k := takes_of_running (m := m) hp hk
  refine ⟨fun r j hj => ?_, fun i e r nonzero zero he hcode => ?_, fun hlimit => ?_⟩
  · have htrace : events.take j = trace j m := by
      obtain ⟨d, hd⟩ := Nat.exists_eq_add_of_le hj
      have hevents : events = trace j m ++ trace d (next^[j] m) := by
        rw [← trace_add, ← hd]
      rw [hevents, List.take_left' (length_trace j m)]
    have haccount : (next^[j] m).registers.get r + (trace j m).countP (p.removes r)
        = rs.get r + (trace j m).countP (p.adds r) :=
      Takes.get_add (fun i hi => htakes i (Nat.lt_of_lt_of_le hi hj)) r
    rw [htrace]
    omega
  · obtain ⟨hi, rfl⟩ := getElem?_trace_eq_some_iff.1 he
    have hcurrent : (next^[i] m).current? = some (.decrement r nonzero zero) := by
      rw [current?, program_iterate_next]
      exact hcode
    exact (htakes.advances hi).label_of_decrement hcurrent
  · have hcount : (next^[k] m).steps - m.steps = k := by
      rw [htakes.steps_eq (Nat.le_refl k), Nat.add_sub_cancel_left]
    rw [runLimited_start hlimit, runFor_eq hp, hcount, foldl_record]
    rfl

/-- A register goes beyond 64 bits and back, with a decrement in between that finds
nothing in another one. -/
theorem registers_accounted_crossing :
    let p : Program := .ofDefinitions
      [(⟨"a"⟩, .increment 0 ⟨"b"⟩), (⟨"b"⟩, .decrement 1 ⟨"a"⟩ ⟨"c"⟩),
        (⟨"c"⟩, .decrement 0 ⟨"b"⟩ ⟨"d"⟩)]
    let m := start p ⟨"a"⟩ (.ofList [18446744073709551615])
    let events := trace 3 m
    p.EachRegister (· ≤ Registers.highest)
      ∧ (∀ i < 3, (next^[i] m).status = .running)
      ∧ (next^[1] m).registers.get 0 = 18446744073709551615 + 1 - 0
      ∧ (next^[3] m).registers.get 0 = 18446744073709551615 + 1 - 1
      ∧ (next^[2] m).label = ⟨"c"⟩ ∧ (next^[3] m).label = ⟨"b"⟩
      ∧ m.runLimited 3 record #[]
        = ⟨events.toArray, next^[3] m, .ok (next^[3] m).outcome?⟩ := by
  intro p m events
  have hp : p.EachRegister (· ≤ Registers.highest) := by
    refine (Program.eachRegister_ofDefinitions_iff (by decide)).2 ?_
    simp [Instruction.register?, Registers.highest]
  have hk : ∀ i < 3, (next^[i] m).status = .running := by
    decide +kernel
  have hfirst : (events.take 1).countP (p.adds 0) = 1
      ∧ (events.take 1).countP (p.removes 0) = 0 := by
    decide +kernel
  have hall : (events.take 3).countP (p.adds 0) = 1
      ∧ (events.take 3).countP (p.removes 0) = 1 := by
    decide +kernel
  obtain ⟨haccount, hdecrement, hrun⟩ := registers_accounted hp hk
  have hone := (haccount 0 1 (by decide)).2
  have hthree := (haccount 0 3 (by decide)).2
  rw [hfirst.1, hfirst.2] at hone
  rw [hall.1, hall.2] at hthree
  have hempty := hdecrement 1 ⟨1, ⟨"b"⟩, .ofList [18446744073709551616]⟩ 1 ⟨"a"⟩ ⟨"c"⟩
    (by decide +kernel) (by decide +kernel)
  have hfull := hdecrement 2 ⟨2, ⟨"c"⟩, .ofList [18446744073709551616, 0]⟩ 0 ⟨"b"⟩ ⟨"d"⟩
    (by decide +kernel) (by decide +kernel)
  exact ⟨hp, hk, hone, hthree, hempty, hfull, hrun (by decide)⟩

end Machine

end CounterMachine
