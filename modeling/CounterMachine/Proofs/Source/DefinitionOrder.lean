import CounterMachine.Proofs.Machine.Runs
import CounterMachine.Proofs.Machine.ErroneousHalt
import Mathlib.Data.List.Perm.Basic

/-!
# The order of definitions

A machine asks its program for the instruction at its label and for nothing else, so two
programs with the same instructions are run alike, `Machine.runFor_withProgram`.  The
order of the definitions is for listings only.

Lines may therefore be exchanged: each line is read as a definition on its own, and the
table of the definitions forgets their order, `Program.exists_ofLines_of_perm`.

Main statement: texts that differ in the order of their definitions are both loaded or
both refused, and no lookup and no run tells the loaded programs apart,
`definition_order_free`.
-/

namespace CounterMachine

/-! ## Machines with the same instructions -/

namespace Machine

variable {σ : Type}

def withProgram (m : Machine) (p : Program) : Machine := { m with program := p }

theorem advance_withProgram {m : Machine} {p : Program}
    (h : p.get? m.label = m.program.get? m.label) :
    (m.withProgram p).advance = m.advance.map (·.withProgram p) := by
  have hcurrent : (m.withProgram p).current? = m.current? := h
  unfold advance
  rw [hcurrent]
  cases m.current? with
  | none => rfl
  | some i =>
      cases i with
      | halt => rfl
      | increment r next =>
          simp only [withProgram]
          cases m.registers.increment r <;> rfl
      | decrement r nonzero zero =>
          simp only [withProgram]
          cases m.registers.decrement r <;> rfl

theorem runFor_withProgram {m : Machine} {p : Program} (h : ∀ l, p.get? l = m.program.get? l)
    (observe : σ → Snapshot → σ) (n : Nat) (seen : σ) :
    runFor observe n seen (m.withProgram p)
      = ⟨(runFor observe n seen m).seen, (runFor observe n seen m).machine.withProgram p,
          (runFor observe n seen m).result⟩ := by
  induction n generalizing m seen with
  | zero => rfl
  | succ n ih =>
      by_cases hs : m.status = .running
      · have hs' : (m.withProgram p).status = .running := hs
        have hadvance := advance_withProgram (h m.label)
        cases ha : m.advance with
        | ok m' =>
            rw [ha] at hadvance
            have hprogram := (advance_eq_ok_iff.1 ha).program_eq
            rw [runFor_of_advance_ok observe n seen hs' hadvance,
              runFor_of_advance_ok observe n seen hs ha]
            exact ih (fun l => by rw [hprogram, h]) _
        | error f =>
            rw [ha] at hadvance
            rw [runFor_of_advance_error observe n seen hs' hadvance,
              runFor_of_advance_error observe n seen hs ha]
      · have hs' : (m.withProgram p).status ≠ .running := hs
        rw [runFor_of_not_running observe _ seen hs', runFor_of_not_running observe _ seen hs]

end Machine

/-! ## Programs with the same instructions -/

namespace Program

variable {p q : Program}

theorem table_eq_of_get? (h : ∀ l, p.get? l = q.get? l) : p.table = q.table :=
  Std.ExtTreeMap.ext_getElem? h

theorem highestRegister?_eq_of_get? (h : ∀ l, p.get? l = q.get? l) :
    p.highestRegister? = q.highestRegister? := by
  rw [highestRegister?, highestRegister?, table_eq_of_get? h]

theorem defines_eq_of_get? (h : ∀ l, p.get? l = q.get? l) (l : Label) :
    p.defines l = q.defines l := by
  rw [defines, defines, table_eq_of_get? h]

theorem exists_ofLines_of_perm {lines lines' : List Line}
    (h : (lines.map Line.text).Perm (lines'.map Line.text)) (hp : ofLines lines = .ok p) :
    ∃ q, ofLines lines' = .ok q ∧ ∀ l, q.get? l = p.get? l := by
  obtain ⟨defs, hreads, hn, rfl⟩ := ofLines_eq_ok_iff.1 hp
  -- whether a line reads as a definition is a matter of its text
  have htexts : List.Forall₂ (fun text => Definition.Reads ⟨0, text⟩) (lines.map Line.text) defs :=
    List.forall₂_map_left_iff.2 hreads
  obtain ⟨defs', htexts', hperm⟩ := List.perm_comp_forall₂ h.symm htexts
  have hreads' : List.Forall₂ Definition.Reads lines' defs' :=
    (List.forall₂_map_left_iff (f := Line.text)).1 htexts'
  have hn' : (defs'.map (·.1)).Nodup := (hperm.map (·.1)).nodup_iff.2 hn
  refine ⟨ofDefinitions defs', ofLines_eq_ok_iff.2 ⟨defs', hreads', hn', rfl⟩, fun l => ?_⟩
  refine Option.ext fun i => ?_
  rw [get?_ofDefinitions_eq_some_iff hn', get?_ofDefinitions_eq_some_iff hn]
  exact hperm.mem_iff

end Program

/-! ## Texts with exchanged lines -/

namespace Setup

variable {s t : String} {a b : Setup}

/-- The lines of two texts that say something: the same one first, and the others alike
but for their order. -/
def SameLines (s t : String) : Prop :=
  ∃ first rest rest', (significantLines s).map Line.text = first :: rest
    ∧ (significantLines t).map Line.text = first :: rest' ∧ rest.Perm rest'

theorem SameLines.symm (h : SameLines s t) : SameLines t s := by
  obtain ⟨first, rest, rest', hs, ht, hperm⟩ := h
  exact ⟨first, rest', rest, ht, hs, hperm.symm⟩

theorem exists_load_of_sameLines (h : SameLines s t) (ha : load s = .ok a) :
    ∃ b, load t = .ok b ∧ b.config = a.config ∧ ∀ l, b.program.get? l = a.program.get? l := by
  obtain ⟨first, rest, rest', hs, ht, hperm⟩ := h
  obtain ⟨line, lines, hlines, hconfig, hprogram⟩ := ofLines_eq_ok_iff.1 ha
  rw [hlines, List.map_cons, List.cons.injEq] at hs
  obtain ⟨line', lines', hlines', hfirst, hrest⟩ := List.map_eq_cons_iff.1 ht
  have htexts : (lines.map Line.text).Perm (lines'.map Line.text) := by
    rw [hs.2, hrest]
    exact hperm
  obtain ⟨q, hq, hget⟩ := Program.exists_ofLines_of_perm htexts hprogram
  refine ⟨⟨a.config, q⟩, ?_, rfl, hget⟩
  refine ofLines_eq_ok_iff.2 ⟨line', lines', hlines', ?_, hq⟩
  rw [hfirst, ← hs.1]
  exact hconfig

theorem exists_undefinedTargets?_of_load (h : load s = .ok a) :
    ∃ missing, a.program.undefinedTargets? = some missing
      ∧ ∀ l, l ∈ missing ↔ a.program.defines l = false
        ∧ ∃ l' i, a.program.get? l' = some i ∧ l ∈ i.targets := by
  obtain ⟨-, defs, hn, -, hp⟩ := writable_iff.1 (writable_of_load h)
  rw [hp]
  exact Program.exists_undefinedTargets? hn

/-- Two runs of loaded programs that no one can tell apart: what is seen, how they end,
and where the machines are then. -/
structure SameRun {σ : Type} (r r' : Run σ (Option Outcome)) : Prop where
  seen : r.seen = r'.seen
  result : r.result = .ok r.machine.outcome? ∧ r'.result = .ok r'.machine.outcome?
  outcome? : r.machine.outcome? = r'.machine.outcome?
  label : r.machine.label = r'.machine.label
  registers : r.machine.registers = r'.machine.registers
  status : r.machine.status = r'.machine.status
  steps : r.machine.steps = r'.machine.steps

theorem machine_eq_withProgram (h : a.config = b.config) :
    a.machine = b.machine.withProgram a.program := by
  rw [machine, h]
  rfl

theorem sameRun (ha : load s = .ok a) (hconfig : a.config = b.config)
    (hget : ∀ l, b.program.get? l = a.program.get? l) (budget : Nat) {σ : Type}
    (observe : σ → Snapshot → σ) (seen : σ) :
    SameRun (a.machine.runLimited budget observe seen)
      (b.machine.runLimited budget observe seen) := by
  have hrange : a.machine.program.EachRegister (· ≤ Registers.highest) :=
    (writable_of_load ha).registers
  have hmachine : b.machine = a.machine.withProgram b.program :=
    machine_eq_withProgram hconfig.symm
  have hresult := Machine.result_runLimited rfl hrange budget observe seen
  have hsteps : b.machine.steps = a.machine.steps := rfl
  rw [Machine.runLimited_of_running rfl] at hresult
  rw [Machine.runLimited_of_running rfl, Machine.runLimited_of_running rfl, hsteps, hmachine,
    Machine.runFor_withProgram (m := a.machine) hget]
  exact ⟨rfl, ⟨hresult, hresult⟩, rfl, rfl, rfl, rfl, rfl⟩

theorem exists_sameUndefinedTargets (ha : load s = .ok a) (hb : load t = .ok b)
    (hget : ∀ l, b.program.get? l = a.program.get? l) :
    ∃ missing missing', a.program.undefinedTargets? = some missing
      ∧ b.program.undefinedTargets? = some missing' ∧ ∀ l, l ∈ missing ↔ l ∈ missing' := by
  obtain ⟨missing, hmissing, hmem⟩ := exists_undefinedTargets?_of_load ha
  obtain ⟨missing', hmissing', hmem'⟩ := exists_undefinedTargets?_of_load hb
  refine ⟨missing, missing', hmissing, hmissing', fun l => ?_⟩
  simp only [hmem, hmem', hget, Program.defines_eq_of_get? hget]

/-- **The order of the definitions does not count.**  Of two texts with the same first
line and the same definitions in some order, both are loaded or none is; and the setups
have one configuration, the same instructions, the same highest register and the same
undefined targets, and run alike with any budget. -/
theorem definition_order_free (h : SameLines s t) :
    ((∃ a, load s = .ok a) ↔ ∃ b, load t = .ok b)
      ∧ ∀ a b, load s = .ok a → load t = .ok b →
        a.config = b.config
          ∧ (∀ l, a.program.get? l = b.program.get? l)
          ∧ a.program.highestRegister? = b.program.highestRegister?
          ∧ (∃ missing missing', a.program.undefinedTargets? = some missing
            ∧ b.program.undefinedTargets? = some missing'
            ∧ ∀ l, l ∈ missing ↔ l ∈ missing')
          ∧ ∀ (budget : Nat) {σ : Type} (observe : σ → Snapshot → σ) (seen : σ),
            SameRun (a.machine.runLimited budget observe seen)
              (b.machine.runLimited budget observe seen) := by
  constructor
  · constructor
    · rintro ⟨a, ha⟩
      obtain ⟨b, hb, -⟩ := exists_load_of_sameLines h ha
      exact ⟨b, hb⟩
    · rintro ⟨b, hb⟩
      obtain ⟨a, ha, -⟩ := exists_load_of_sameLines h.symm hb
      exact ⟨a, ha⟩
  · intro a b ha hb
    obtain ⟨b', hb', hconfig, hget⟩ := exists_load_of_sameLines h ha
    obtain rfl : b' = b := Except.ok.inj (hb'.symm.trans hb)
    refine ⟨hconfig.symm, fun l => (hget l).symm, ?_, ?_, fun budget σ observe seen => ?_⟩
    · exact (Program.highestRegister?_eq_of_get? hget).symm
    · exact exists_sameUndefinedTargets ha hb hget
    · exact sameRun ha hconfig.symm hget budget observe seen

/-- The definitions of a move between registers, as they are written and the other way
round, with two targets that no line defines. -/
theorem definition_order_free_reversed :
    let s := "a, 1\na: dec(r0), b, x\nb: inc(r9), c\nc: dec(r1), y, a\n"
    let t := "# reversed\nA,1\nc: dec(r1), y, a\nb: inc(r9), c\na: dec(r0), b, x"
    SameLines s t ∧ ∃ a b, load s = .ok a ∧ load t = .ok b ∧ a.program.order ≠ b.program.order
      ∧ (∀ l, a.program.get? l = b.program.get? l)
      ∧ a.program.highestRegister? = b.program.highestRegister?
      ∧ (∃ missing missing', a.program.undefinedTargets? = some missing
        ∧ b.program.undefinedTargets? = some missing' ∧ ∀ l, l ∈ missing ↔ l ∈ missing')
      ∧ SameRun (a.machine.runLimited 3 Machine.record #[])
        (b.machine.runLimited 3 Machine.record #[]) := by
  intro s t
  have hs : (significantLines s).map Line.text
      = ["a,1", "a:dec(r0),b,x", "b:inc(r9),c", "c:dec(r1),y,a"] := by
    decide +kernel
  have ht : (significantLines t).map Line.text
      = ["a,1", "c:dec(r1),y,a", "b:inc(r9),c", "a:dec(r0),b,x"] := by
    decide +kernel
  have hlines : SameLines s t := ⟨_, _, _, hs, ht, by decide⟩
  obtain ⟨-, halike⟩ := definition_order_free hlines
  let a : Setup := ⟨⟨⟨"a"⟩, .ofList [1]⟩, .ofDefinitions [(⟨"a"⟩, .decrement 0 ⟨"b"⟩ ⟨"x"⟩),
    (⟨"b"⟩, .increment 9 ⟨"c"⟩), (⟨"c"⟩, .decrement 1 ⟨"y"⟩ ⟨"a"⟩)]⟩
  let b : Setup := ⟨⟨⟨"a"⟩, .ofList [1]⟩, .ofDefinitions [(⟨"c"⟩, .decrement 1 ⟨"y"⟩ ⟨"a"⟩),
    (⟨"b"⟩, .increment 9 ⟨"c"⟩), (⟨"a"⟩, .decrement 0 ⟨"b"⟩ ⟨"x"⟩)]⟩
  have ha : load s = .ok a := by
    decide +kernel
  have hb : load t = .ok b := by
    decide +kernel
  obtain ⟨-, hget, hhighest, hmissing, hrun⟩ := halike a b ha hb
  exact ⟨hlines, a, b, ha, hb, by decide +kernel, hget, hhighest, hmissing,
    hrun 3 Machine.record #[]⟩

end Setup

end CounterMachine
