import CounterMachine.Proofs.Machine.Halting
import CounterMachine.Proofs.Source.Writable

/-!
# Erroneous halts

A machine is always at its start label or at a target of some instruction, and it
halts erroneously only where no instruction is: `Placed` is this invariant.  The
labels that it may halt at are therefore known without running the program, and
`undefinedTargets?` finds them all: see `label_of_erroneous` and `not_erroneous`.
-/

namespace CounterMachine

namespace Program

theorem exists_undefinedTargets? {defs : List (Label × Instruction)}
    (hn : (defs.map (·.1)).Nodup) :
    ∃ missing, (ofDefinitions defs).undefinedTargets? = some missing
      ∧ ∀ t, t ∈ missing ↔ (ofDefinitions defs).defines t = false
        ∧ ∃ l i, (ofDefinitions defs).get? l = some i ∧ t ∈ i.targets := by
  refine ⟨((defs.flatMap (·.2.targets)).filter
    fun t => !(ofDefinitions defs).defines t).eraseDups, ?_, fun t => ?_⟩
  · rw [undefinedTargets?, definitions?_ofDefinitions hn, Option.map_some]
  · simp only [List.mem_eraseDups, List.mem_filter, List.mem_flatMap, Prod.exists,
      Bool.not_eq_true', get?_ofDefinitions_eq_some_iff hn]
    exact and_comm

end Program

namespace Machine

/-- Where a machine can be: at its start or where an instruction goes to, and at a
label without an instruction once it has halted erroneously. -/
structure Placed (m : Machine) : Prop where
  arrived : m.label = m.startLabel ∨ ∃ l i, m.program.get? l = some i ∧ m.label ∈ i.targets
  undefined : m.status = .halted .erroneous → m.program.get? m.label = none

theorem placed_start (p : Program) (l : Label) (rs : Registers) : Placed (start p l rs) where
  arrived := Or.inl rfl
  undefined := by
    intro h
    cases h

theorem Placed.advances {m m' : Machine} (hp : Placed m) (hs : m.status = .running)
    (h : Advances m m') : Placed m' := by
  have hrunning : m.status ≠ .halted .erroneous := by
    rw [hs]
    exact Status.noConfusion
  cases h with
  | undefined h => exact ⟨hp.arrived, fun _ => h⟩
  | halt h => exact ⟨hp.arrived, fun he => by cases he⟩
  | increment h hr =>
      refine ⟨Or.inr ⟨m.label, _, h, ?_⟩, fun he => absurd he hrunning⟩
      exact List.mem_singleton_self _
  | decrementZero h hr hz =>
      refine ⟨Or.inr ⟨m.label, _, h, ?_⟩, fun he => absurd he hrunning⟩
      exact List.mem_cons_of_mem _ (List.mem_singleton_self _)
  | decrementNonzero h hr hz =>
      refine ⟨Or.inr ⟨m.label, _, h, ?_⟩, fun he => absurd he hrunning⟩
      exact List.mem_cons_self

theorem Placed.next {m : Machine} (hp : Placed m) : Placed m.next := by
  rcases next_eq_or m with heq | ⟨hs, hadv⟩
  · rwa [heq]
  · exact hp.advances hs hadv

theorem Placed.iterate_next {m : Machine} (hp : Placed m) (k : Nat) :
    Placed (Machine.next^[k] m) :=
  Function.Iterate.rec Placed hp (fun _ h => h.next) k

end Machine

namespace Setup

theorem arrived_iterate_next (setup : Setup) (k : Nat) :
    (Machine.next^[k] setup.machine).label = setup.config.startLabel
      ∨ ∃ l i, setup.program.get? l = some i
        ∧ (Machine.next^[k] setup.machine).label ∈ i.targets := by
  have hplaced : (Machine.next^[k] setup.machine).Placed :=
    (Machine.placed_start _ _ _).iterate_next k
  have hprogram : (Machine.next^[k] setup.machine).program = setup.program :=
    Machine.program_iterate_next setup.machine k
  have hstart : (Machine.next^[k] setup.machine).startLabel = setup.config.startLabel :=
    congrArg Machine.startLabel (Machine.reset_iterate_next setup.machine k)
  have harrived := hplaced.arrived
  rwa [hprogram, hstart] at harrived

/-- The places of an erroneous halt can be read off the program. -/
theorem label_of_erroneous {setup : Setup} {missing : List Label}
    (hm : ∀ t, t ∈ missing ↔ setup.program.defines t = false
      ∧ ∃ l i, setup.program.get? l = some i ∧ t ∈ i.targets)
    {k : Nat} (he : (Machine.next^[k] setup.machine).status = .halted .erroneous) :
    setup.program.defines (Machine.next^[k] setup.machine).label = false
      ∧ ((Machine.next^[k] setup.machine).label = setup.config.startLabel
        ∨ (Machine.next^[k] setup.machine).label ∈ missing) := by
  have hplaced : (Machine.next^[k] setup.machine).Placed :=
    (Machine.placed_start _ _ _).iterate_next k
  have hprogram : (Machine.next^[k] setup.machine).program = setup.program :=
    Machine.program_iterate_next setup.machine k
  have hundefined : setup.program.defines (Machine.next^[k] setup.machine).label = false := by
    rw [← Program.get?_eq_none_iff, ← hprogram]
    exact hplaced.undefined he
  refine ⟨hundefined, ?_⟩
  rcases setup.arrived_iterate_next k with hlabel | htarget
  · exact Or.inl hlabel
  · exact Or.inr ((hm _).2 ⟨hundefined, htarget⟩)

theorem not_erroneous {setup : Setup} {missing : List Label}
    (hm : ∀ t, t ∈ missing ↔ setup.program.defines t = false
      ∧ ∃ l i, setup.program.get? l = some i ∧ t ∈ i.targets)
    (hdefined : setup.program.defines setup.config.startLabel = true) (hnil : missing = [])
    (k : Nat) : (Machine.next^[k] setup.machine).status ≠ .halted .erroneous := by
  intro he
  obtain ⟨hundefined, hstart | hjump⟩ := label_of_erroneous hm he
  · rw [hstart, hdefined] at hundefined
    cases hundefined
  · rw [hnil] at hjump
    cases hjump

end Setup

end CounterMachine
