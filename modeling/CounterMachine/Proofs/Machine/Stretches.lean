import CounterMachine.Proofs.Machine.Halting
import CounterMachine.Proofs.Machine.Textbook

/-!
# Stretches of a run

`Stretch k P Q` says that from every machine with `P` exactly `k` steps lead to one
with `Q`.  Stretches are put one after the other, `Stretch.trans`, and a loop is a
stretch for each of its rounds, `Stretch.iterate`, whose invariant has the number of
rounds done as its index.

`StandsAt` is what such an invariant says of a counter machine: the label, and the
counters as a list.  The row of registers may be shorter than the list, where it has not
been filled up yet; a lower bound for its length stands beside the list, and once the
bound is the length of the list the row is known, `StandsAt.registers_eq`.

* `StandsAt.increment`, `StandsAt.decrement` and `StandsAt.decrement_zero`: a stretch for
  each instruction and each branch;
* `StandsAt.execute`: a stretch to a halt instruction is an execution, with as many
  steps and the one that halts.
-/

namespace CounterMachine

/-! ## Rows that are filled up -/

namespace Registers

theorem growTo_modify {r n : Nat} (h : r < n) (rs : Registers) (f : Nat → Nat) :
    (rs.modify r f).growTo n = (rs.growTo n).modify r f := by
  apply eq_of_size_of_get
  · simp only [size_growTo, size_modify]
    omega
  · simp only [get_growTo_eq, get_modify_eq_update]

theorem modify_ofList {vs : List Nat} {r v : Nat} (h : vs[r]? = some v) (f : Nat → Nat) :
    (ofList vs).modify r f = ofList (vs.set r (f v)) := by
  have hr : r < vs.length := (List.getElem?_eq_some_iff.1 h).1
  apply eq_of_size_of_get
  · simp only [size_modify, size_ofList, List.length_set]
    omega
  · funext i
    rw [get_modify, get_ofList, get_ofList, get_ofList, h, Option.getD_some, List.getElem?_set]
    by_cases hi : i = r
    · rw [if_pos hi, if_pos hi.symm, if_pos (hi ▸ hr), Option.getD_some]
    · rw [if_neg hi, if_neg (Ne.symm hi)]

theorem growTo_of_le_size {rs : Registers} {n : Nat} (h : n ≤ rs.size) : rs.growTo n = rs := by
  apply eq_of_size_of_get
  · simp only [size_growTo]
    omega
  · exact get_growTo_eq rs n

theorem growTo_ofList (vs : List Nat) (k : Nat) :
    (ofList vs).growTo (vs.length + k) = ofList (vs ++ List.replicate k 0) := by
  apply eq_of_size_of_get
  · simp only [size_growTo, size_ofList, List.length_append, List.length_replicate]
    omega
  · funext i
    rw [get_growTo, get_ofList, get_ofList, List.getElem?_append, List.getElem?_replicate]
    split
    · rfl
    · next hi =>
      rw [List.getElem?_eq_none (Nat.le_of_not_lt hi)]
      split <;> rfl

end Registers

namespace Machine

/-! ## Stretches -/

/-- From every machine with `P` exactly `k` steps lead to one with `Q`. -/
def Stretch (k : Nat) (P Q : Machine → Prop) : Prop :=
  ∀ ⦃m⦄, P m → m.Takes k ∧ Q (next^[k] m)

theorem Takes.add {m : Machine} {j k : Nat} (hj : m.Takes j) (hk : (next^[j] m).Takes k) :
    m.Takes (j + k) := by
  intro i hi
  rcases Nat.lt_or_ge i j with hlt | hge
  · exact hj i hlt
  · obtain ⟨d, rfl⟩ := Nat.exists_eq_add_of_le hge
    have hd := hk d (Nat.lt_of_add_lt_add_left hi)
    rwa [← Function.iterate_add_apply, ← Function.iterate_add_apply, Nat.add_comm d j,
      Nat.add_right_comm d 1 j, Nat.add_comm d j] at hd

namespace Stretch

variable {P Q R : Machine → Prop} {j k : Nat}

theorem refl (P : Machine → Prop) : Stretch 0 P P :=
  fun _ hm => ⟨fun _ hi => absurd hi (Nat.not_lt_zero _), hm⟩

theorem trans (h : Stretch j P Q) (h' : Stretch k Q R) : Stretch (j + k) P R := by
  intro m hm
  obtain ⟨hj, hq⟩ := h hm
  obtain ⟨hk, hr⟩ := h' hq
  refine ⟨hj.add hk, ?_⟩
  rwa [Nat.add_comm j k, Function.iterate_add_apply]

theorem of_imp (hp : ∀ m, P m → Q m) (h : Stretch k Q R) : Stretch k P R :=
  fun m hm => h (hp m hm)

/-- The rounds of a loop, each as long as the others.  The invariant is indexed by the
number of rounds done. -/
theorem iterate {I : Nat → Machine → Prop} (n : Nat)
    (round : ∀ i < n, Stretch k (I i) (I (i + 1))) : Stretch (n * k) (I 0) (I n) := by
  induction n with
  | zero =>
      rw [Nat.zero_mul]
      exact refl _
  | succ n ih =>
      have hbefore := ih fun i hi => round i (Nat.lt_succ_of_lt hi)
      rw [Nat.succ_mul]
      exact hbefore.trans (round n (Nat.lt_succ_self n))

theorem haltsIn (h : Stretch k P Q) {m : Machine} (hm : P m) {o : Nat → Outcome}
    (hq : ∀ m, Q m → HaltsIn m 1 (o (m.steps + 1))) :
    HaltsIn m (k + 1) (o (m.steps + k + 1)) := by
  obtain ⟨htakes, hend⟩ := h hm
  have hlast := hq _ hend
  rw [htakes.steps_eq (Nat.le_refl k)] at hlast
  refine ⟨fun i hi => ?_, ?_⟩
  · rcases Nat.lt_or_eq_of_le (Nat.le_of_lt_succ hi) with hlt | rfl
    · exact htakes.running hlt
    · exact hlast.running 0 Nat.one_pos
  · rw [Nat.add_comm k 1, Function.iterate_add_apply]
    exact hlast.outcome

end Stretch

/-! ## Counters as a list -/

/-- The machine runs the program and is at the label.  It has at least `n` registers,
and filled up with zeros they hold `vs`. -/
structure StandsAt (p : Program) (l : Label) (n : Nat) (vs : List Nat) (m : Machine) : Prop where
  program : m.program = p
  running : m.status = .running
  label : m.label = l
  size_le : n ≤ m.registers.size
  registers : m.registers.growTo vs.length = .ofList vs

namespace StandsAt

variable {p : Program} {l next zero : Label} {n n' r v : Nat} {vs : List Nat} {m m' : Machine}

theorem current?_eq (h : StandsAt p l n vs m) : m.current? = p.get? l := by
  rw [current?, h.program, h.label]

theorem get_eq (h : StandsAt p l n vs m) (hv : vs[r]? = some v) : m.registers.get r = v := by
  rw [← Registers.get_growTo m.registers vs.length r, h.registers, Registers.get_ofList, hv,
    Option.getD_some]

theorem registers_eq (h : StandsAt p l vs.length vs m) : m.registers = .ofList vs := by
  rw [← h.registers, Registers.growTo_of_le_size h.size_le]

theorem append_zeros (h : StandsAt p l n vs m) (k : Nat) :
    StandsAt p l n (vs ++ List.replicate k 0) m := by
  refine ⟨h.program, h.running, h.label, h.size_le, ?_⟩
  rw [List.length_append, List.length_replicate, ← Registers.growTo_growTo (Nat.le_add_right _ k),
    h.registers, Registers.growTo_ofList]

theorem takes_of_advance (h : StandsAt p l n vs m) (ha : m.advance = .ok m') :
    m.Takes 1 ∧ m.next = m' := by
  refine ⟨fun i hi => ?_, next_of_advance_ok h.running ha⟩
  obtain rfl : i = 0 := Nat.lt_one_iff.1 hi
  rw [Function.iterate_one, next_of_advance_ok h.running ha]
  exact step_of_advance_ok h.running ha

theorem of_modify (h : StandsAt p l n vs m) (hv : vs[r]? = some v) (f : Nat → Nat)
    (hn : n' ≤ max n (r + 1)) (hm : m' = { m with
      label := next, registers := m.registers.modify r f, steps := m.steps + 1 }) :
    StandsAt p next n' (vs.set r (f v)) m' := by
  have hr : r < vs.length := (List.getElem?_eq_some_iff.1 hv).1
  have hle := h.size_le
  subst hm
  refine ⟨h.program, h.running, rfl, ?_, ?_⟩
  · simp only [Registers.size_modify]
    omega
  · rw [List.length_set, Registers.growTo_modify hr, h.registers, Registers.modify_ofList hv]

theorem increment (hp : p.get? l = some (.increment r next)) (hr : r ≤ Registers.highest)
    (hv : vs[r]? = some v) (hn : n' ≤ max n (r + 1)) :
    Stretch 1 (StandsAt p l n vs) (StandsAt p next n' (vs.set r (v + 1))) := by
  intro m h
  have ha := advance_increment (h.current?_eq.trans hp) hr
  obtain ⟨htakes, hnext⟩ := h.takes_of_advance ha
  exact ⟨htakes, h.of_modify hv (· + 1) hn hnext⟩

theorem decrement (hp : p.get? l = some (.decrement r next zero)) (hr : r ≤ Registers.highest)
    (hv : vs[r]? = some (v + 1)) (hn : n' ≤ max n (r + 1)) :
    Stretch 1 (StandsAt p l n vs) (StandsAt p next n' (vs.set r v)) := by
  intro m h
  have hne : m.registers.get r ≠ 0 := by
    rw [h.get_eq hv]
    exact Nat.succ_ne_zero v
  have ha := advance_decrement_nonzero (h.current?_eq.trans hp) hr hne
  obtain ⟨htakes, hnext⟩ := h.takes_of_advance ha
  exact ⟨htakes, h.of_modify hv (· - 1) hn hnext⟩

theorem decrement_zero (hp : p.get? l = some (.decrement r next zero))
    (hr : r ≤ Registers.highest) (hv : vs[r]? = some 0) (hn : n' ≤ max n (r + 1)) :
    Stretch 1 (StandsAt p l n vs) (StandsAt p zero n' vs) := by
  intro m h
  have hlength : r < vs.length := (List.getElem?_eq_some_iff.1 hv).1
  have hle := h.size_le
  have ha := advance_decrement_zero (h.current?_eq.trans hp) hr (h.get_eq hv)
  obtain ⟨htakes, hnext⟩ := h.takes_of_advance ha
  refine ⟨htakes, ?_⟩
  rw [Function.iterate_one, hnext]
  refine ⟨h.program, h.running, rfl, ?_, ?_⟩
  · simp only [Registers.size_growTo]
    omega
  · simp only
    rw [Registers.growTo_growTo hlength, h.registers]

theorem haltsIn (hp : p.get? l = some .halt) (h : StandsAt p l vs.length vs m) :
    HaltsIn m 1 ⟨.proper, m.steps + 1, l, .ofList vs⟩ := by
  have hnext := next_of_advance_ok h.running (advance_halt (h.current?_eq.trans hp))
  refine haltsIn_succ.2 ⟨h.running, ?_⟩
  rw [hnext, ← h.registers_eq, ← h.label]
  exact (haltsIn_of_outcome rfl).2 ⟨rfl, rfl⟩

theorem execute {start : Label} (us : List Nat) {k : Nat} (hp : p.get? l = some .halt)
    (h : Stretch k (StandsAt p start us.length us) (StandsAt p l vs.length vs))
    (hk : k + 1 ≤ stepLimit) :
    ∃ trace, p.execute start (.ofList us) = .ok (⟨.proper, k + 1, l, .ofList vs⟩, trace) := by
  have hstart : StandsAt p start us.length us (.start p start (.ofList us)) := by
    refine ⟨rfl, rfl, rfl, ?_, ?_⟩
    · exact Nat.le_of_eq (Registers.size_ofList us).symm
    · exact Registers.growTo_of_le_size (Nat.le_of_eq (Registers.size_ofList us).symm)
  have hhalts := h.haltsIn hstart (o := fun n => ⟨.proper, n, l, .ofList vs⟩)
    fun m hm => hm.haltsIn hp
  rw [start_steps, Nat.zero_add] at hhalts
  exact ⟨_, Program.execute_eq_ok_iff.2 ⟨k + 1, hk, hhalts, rfl⟩⟩

end StandsAt

end Machine

end CounterMachine
