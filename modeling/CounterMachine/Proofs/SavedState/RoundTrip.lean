import CounterMachine.Proofs.Json.RoundTrip
import CounterMachine.Proofs.Machine.Steps
import CounterMachine.Proofs.SavedState.Members

/-!
# Saved state is read back

Each value is read back from its form in JSON, whatever its labels and registers are:
a label need not be in normal form, and the table and the order of a program may
disagree. Only the numbers that are not written as text have to fit in 64 bits, the
registers of the instructions and the counters of steps.
-/

namespace CounterMachine

open Json (ofString ofNat ofMembers isReadable)

/-! ## Labels and registers -/

theorem Label.ofJson?_toJson (l : Label) : Label.ofJson? l.toJson = some l := rfl

theorem Label.isReadable_toJson (levels : Nat) (l : Label) :
    isReadable levels l.toJson = true := Json.isReadable_ofString levels l.text

theorem Json.word?_ofNat {n : Nat} (h : n < wordBound) : (ofNat n).word? = some n := by
  rw [ofNat, word?, if_pos h]

namespace Registers

theorem cellText?_repr (v : Nat) : cellText? v.repr = some v := by
  have hhead : ∀ cs, v.repr.toList ≠ '+' :: cs := by
    intro cs hcs
    have hdigit := Text.isDigit_of_mem_repr (n := v) (hcs ▸ List.mem_cons_self)
    cases hdigit
  have hne := Text.repr_toList_ne_nil v
  have hcells : (v.repr.toList.all fun c => c.isDigit || c == '_') = true := by
    rw [List.all_eq_true]
    intro c hc
    rw [Text.isDigit_of_mem_repr hc]
    rfl
  have hfilter : v.repr.toList.filter Char.isDigit = v.repr.toList :=
    List.filter_eq_self.2 fun c hc => Text.isDigit_of_mem_repr hc
  unfold cellText?
  extract_lets cs
  have hcs : cs = v.repr.toList := by
    unfold cs
    split
    · next ds hds => exact absurd hds (hhead ds)
    · rfl
  rw [← hcs] at hne hcells hfilter
  rw [if_pos ⟨hne, hcells⟩, hfilter, hcs, Text.numeral_repr]

theorem cellOfJson?_cellToJson (v : Nat) : cellOfJson? (cellToJson v) = some v := by
  by_cases hv : v < wordBound
  · rw [cellToJson, if_pos hv, cellOfJson?, Json.word?_ofNat hv]
  · rw [cellToJson, if_neg hv]
    exact cellText?_repr v

theorem ofJson?_toJson (rs : Registers) : ofJson? rs.toJson = some rs := by
  have hvalues : (rs.toList.map cellToJson).mapM cellOfJson? = some rs.toList :=
    mapM_map_eq_some fun v _ => cellOfJson?_cellToJson v
  simp only [ofJson?, toJson, Json.elements?, Option.bind_eq_bind, Option.bind_some, hvalues,
    ofList_toList]
  rfl

theorem isReadable_toJson (levels : Nat) (rs : Registers) :
    isReadable (levels + 1) rs.toJson = true := by
  apply Json.isReadable_array
  intro x hx
  obtain ⟨v, -, rfl⟩ := List.mem_map.1 hx
  by_cases hv : v < wordBound
  · rw [cellToJson, if_pos hv]
    exact Json.isReadable_ofNat levels hv
  · rw [cellToJson, if_neg hv]
    exact Json.isReadable_ofString levels _

end Registers

/-! ## Programs -/

namespace Instruction

theorem isReadable_toJson (levels : Nat) {i : Instruction}
    (h : ∀ r, i.register? = some r → r < wordBound) :
    isReadable (levels + 1) i.toJson = true := by
  cases i with
  | halt => rfl
  | increment r next =>
      have hr := Json.isReadable_ofNat levels (h r rfl)
      apply Json.isReadable_ofMembers
      simp [hr, Json.isReadable_ofString, Label.isReadable_toJson]
  | decrement r nonzero zero =>
      have hr := Json.isReadable_ofNat levels (h r rfl)
      apply Json.isReadable_ofMembers
      simp [hr, Json.isReadable_ofString, Label.isReadable_toJson]

theorem ofJson?_toJson (levels : Nat) {i : Instruction}
    (h : ∀ r, i.register? = some r → r < wordBound) :
    ofJson? (levels + 1) i.toJson = some i := by
  rw [ofJson?, if_pos (isReadable_toJson levels h)]
  cases i with
  | halt => rfl
  | increment r next =>
      have hfields : (ofMembers [("register", ofNat r), ("next", next.toJson)]).fields?
          ["register", "next"] = some [ofNat r, next.toJson] :=
        Json.fields?_ofMembers (by simp)
      rw [toJson, Json.tagged?_ofMembers (by simp)]
      simp only [hfields, Json.word?_ofNat (h r rfl), Label.ofJson?_toJson]
      rfl
  | decrement r nonzero zero =>
      have hfields : (ofMembers [("register", ofNat r), ("nonzero", nonzero.toJson),
          ("zero", zero.toJson)]).fields? ["register", "nonzero", "zero"]
            = some [ofNat r, nonzero.toJson, zero.toJson] :=
        Json.fields?_ofMembers (by simp)
      rw [toJson, Json.tagged?_ofMembers (by simp)]
      simp only [hfields, Json.word?_ofNat (h r rfl), Label.ofJson?_toJson]
      rfl

end Instruction

namespace Program

variable {p : Program}

theorem tableOfJson?_toJson (levels : Nat) (h : p.EachRegister (· < wordBound)) :
    tableOfJson? (levels + 2)
        (ofMembers (p.table.toList.map fun d => (d.1.text, d.2.toJson)))
      = some p.table := by
  have hentries : ((p.table.toList.map fun d => (d.1.text, d.2.toJson)).map
      fun m => (some m.1, m.2)).mapM (fun m => do
        return (Label.mk (← m.1), ← Instruction.ofJson? (levels + 1) m.2))
      = some p.table.toList := by
    rw [List.map_map]
    apply mapM_map_eq_some
    intro d hd
    have hget : p.get? d.1 = some d.2 := Std.ExtTreeMap.mem_toList_iff_getElem?_eq_some.1 hd
    simp only [Function.comp_apply, Instruction.ofJson?_toJson levels (h d.1 d.2 hget)]
    rfl
  have htable := table_ofDefinitions_toList p.table
  rw [ofDefinitions] at htable
  rw [ofMembers, tableOfJson?, show levels + 2 - 1 = levels + 1 from rfl, hentries]
  exact congrArg some htable

theorem ofJson?_toJson (levels : Nat) (h : p.EachRegister (· < wordBound)) :
    ofJson? (levels + 3) p.toJson = some p := by
  have hfields : p.toJson.fields? ["instructions", "order"]
      = some [ofMembers (p.table.toList.map fun d => (d.1.text, d.2.toJson)),
        .array (p.order.map Label.toJson)] :=
    Json.fields?_ofMembers (by simp)
  have horder : (p.order.map Label.toJson).mapM Label.ofJson? = some p.order :=
    mapM_map_eq_some fun l _ => Label.ofJson?_toJson l
  have htable := tableOfJson?_toJson levels h
  simp only [ofJson?, hfields, show levels + 3 - 1 = levels + 2 from rfl, htable,
    Json.elements?, Option.bind_eq_bind, Option.bind_some, horder]
  rfl

end Program

theorem Configuration.ofJson?_toJson (c : Configuration) : ofJson? c.toJson = some c := by
  have hfields : c.toJson.fields? ["start_label", "registers"]
      = some [c.startLabel.toJson, c.registers.toJson] :=
    Json.fields?_ofMembers (by simp)
  simp only [ofJson?, hfields, Label.ofJson?_toJson, Registers.ofJson?_toJson]
  rfl

theorem Setup.ofJson?_toJson {s : Setup} (h : s.program.EachRegister (· < wordBound)) :
    ofJson? s.toJson = some s := by
  have hfields : s.toJson.fields? ["config", "program"]
      = some [s.config.toJson, s.program.toJson] :=
    Json.fields?_ofMembers (by simp)
  have hprogram : Program.ofJson? (nestingLimit - 1) s.program.toJson = some s.program :=
    Program.ofJson?_toJson 123 h
  simp only [ofJson?, hfields, Configuration.ofJson?_toJson, hprogram]
  rfl

/-! ## Runs -/

theorem Snapshot.ofJson?_toJson {s : Snapshot} (h : s.step < wordBound) :
    ofJson? s.toJson = some s := by
  have hfields : s.toJson.fields? ["step", "label", "registers"]
      = some [ofNat s.step, s.label.toJson, s.registers.toJson] :=
    Json.fields?_ofMembers (by simp)
  simp only [ofJson?, hfields, Json.word?_ofNat h, Label.ofJson?_toJson,
    Registers.ofJson?_toJson]
  rfl

theorem HaltKind.ofTag?_tag (kind : HaltKind) : ofTag? kind.tag = some kind := by
  cases kind <;> decide

theorem Outcome.isReadable_toJson (levels : Nat) {o : Outcome} (h : o.stepCount < wordBound) :
    isReadable (levels + 2) o.toJson = true := by
  have hsteps := Json.isReadable_ofNat (levels + 1) h
  apply Json.isReadable_ofMembers
  simp [hsteps, Json.isReadable_ofString, Label.isReadable_toJson,
    Registers.isReadable_toJson levels]

theorem Outcome.ofJson?_toJson {o : Outcome} (h : o.stepCount < wordBound) :
    ofJson? o.toJson = some o := by
  have hread : isReadable nestingLimit o.toJson = true := isReadable_toJson 125 h
  have htag : o.toJson.tagged? "kind" = some (o.kind.tag, ofMembers [
      ("step_count", ofNat o.stepCount), ("final_label", o.label.toJson),
      ("final_registers", o.registers.toJson)]) :=
    Json.tagged?_ofMembers (by simp)
  have hfields : (ofMembers [("step_count", ofNat o.stepCount), ("final_label", o.label.toJson),
      ("final_registers", o.registers.toJson)]).fields?
        ["step_count", "final_label", "final_registers"]
      = some [ofNat o.stepCount, o.label.toJson, o.registers.toJson] :=
    Json.fields?_ofMembers (by simp)
  rw [ofJson?, if_pos hread]
  simp only [htag, hfields, HaltKind.ofTag?_tag, Json.word?_ofNat h, Label.ofJson?_toJson,
    Registers.ofJson?_toJson]
  rfl

theorem Status.ofJson?_toJson (s : Status) : ofJson? s.toJson = some s := by
  cases s with
  | running => decide
  | halted kind => cases kind <;> decide

theorem Machine.ofJson?_toJson {m : Machine} (h : m.program.EachRegister (· < wordBound))
    (hsteps : m.steps < wordBound) : ofJson? m.toJson = some m := by
  have hfields : m.toJson.fields? ["program", "start_label", "initial_registers", "label",
        "registers", "state", "steps"]
      = some [m.program.toJson, m.startLabel.toJson, m.initialRegisters.toJson, m.label.toJson,
          m.registers.toJson, m.status.toJson, ofNat m.steps] :=
    Json.fields?_ofMembers (by simp)
  have hprogram : Program.ofJson? (nestingLimit - 1) m.program.toJson = some m.program :=
    Program.ofJson?_toJson 123 h
  simp only [ofJson?, hfields, hprogram, Label.ofJson?_toJson, Registers.ofJson?_toJson,
    Status.ofJson?_toJson, Json.word?_ofNat hsteps]
  rfl

/-! ## Texts -/

theorem bind_read?_text {α : Type} (layout : JsonLayout) {j : Json} {ofJson? : Json → Option α}
    {a : α} (h : ofJson? j = some a) : (Json.read? (j.text layout)).bind ofJson? = some a := by
  rw [Json.read?_text, Option.bind_some, h]

theorem Machine.runFor_keeps {σ : Type} (observe : σ → Snapshot → σ) (n : Nat) (seen : σ)
    (m : Machine) :
    (runFor observe n seen m).machine.program = m.program
      ∧ (runFor observe n seen m).machine.reset = m.reset
      ∧ (runFor observe n seen m).machine.steps ≤ m.steps + n := by
  rw [machine_runFor]
  exact ⟨program_iterate_next m n, reset_iterate_next m n, steps_iterate_next_le m n⟩

/-- **Saved state is read back from its text**: machines, setups, outcomes and what was
seen of a run. A machine that is saved after a run goes on as the machine itself does
and goes back to the same start. -/
theorem read_saved_text (layout : JsonLayout) :
    (∀ m : Machine, m.program.EachRegister (· < wordBound) → m.steps < wordBound →
      (Json.read? (m.toJson.text layout)).bind Machine.ofJson? = some m)
    ∧ (∀ s : Setup, s.program.EachRegister (· < wordBound) →
      (Json.read? (s.toJson.text layout)).bind Setup.ofJson? = some s)
    ∧ (∀ o : Outcome, o.stepCount < wordBound →
      (Json.read? (o.toJson.text layout)).bind Outcome.ofJson? = some o)
    ∧ (∀ s : Snapshot, s.step < wordBound →
      (Json.read? (s.toJson.text layout)).bind Snapshot.ofJson? = some s)
    ∧ ∀ {σ : Type} (observe : σ → Snapshot → σ) (n : Nat) (seen : σ) (m : Machine),
      m.program.EachRegister (· < wordBound) → m.steps + n ≤ stepLimit →
      ∃ m', (Json.read? ((Machine.runFor observe n seen m).machine.toJson.text layout)).bind
          Machine.ofJson? = some m'
        ∧ m'.reset = m.reset
        ∧ m'.outcome? = (Machine.runFor observe n seen m).machine.outcome?
        ∧ ∀ {τ : Type} (watch : τ → Snapshot → τ) (k : Nat) (watched : τ),
          Machine.runFor watch k watched m'
              = Machine.runFor watch k watched (Machine.runFor observe n seen m).machine
            ∧ m'.runLimited k watch watched
              = (Machine.runFor observe n seen m).machine.runLimited k watch watched
            ∧ m'.run watch watched
              = (Machine.runFor observe n seen m).machine.run watch watched := by
  refine ⟨fun m h hsteps => ?_, fun s h => ?_, fun o h => ?_, fun s h => ?_, ?_⟩
  · exact bind_read?_text layout (Machine.ofJson?_toJson h hsteps)
  · exact bind_read?_text layout (Setup.ofJson?_toJson h)
  · exact bind_read?_text layout (Outcome.ofJson?_toJson h)
  · exact bind_read?_text layout (Snapshot.ofJson?_toJson h)
  · intro σ observe n seen m h hn
    obtain ⟨hprogram, hreset, hsteps⟩ := Machine.runFor_keeps observe n seen m
    have hregisters :
        (Machine.runFor observe n seen m).machine.program.EachRegister (· < wordBound) :=
      hprogram ▸ h
    have hcounter : (Machine.runFor observe n seen m).machine.steps < wordBound := by
      simp only [stepLimit] at hn
      simp only [wordBound]
      omega
    exact ⟨_, bind_read?_text layout (Machine.ofJson?_toJson hregisters hcounter), hreset, rfl,
      fun _ _ _ => ⟨rfl, rfl, rfl⟩⟩

/-- Labels that no program text has, an order that names no label of the table, a register
above the highest one and values on both sides of 64 bits. -/
theorem read_saved_text_unloadable :
    let p : Program :=
      ⟨(Program.ofDefinitions [(⟨"A \"\\\n\x01\u00e9"⟩, .increment 3 ⟨""⟩),
        (⟨"#"⟩, .decrement 70000 ⟨","⟩ ⟨":"⟩)]).table, [⟨"b"⟩, ⟨"b"⟩]⟩
    let m : Machine := .start p ⟨"A \"\\\n\x01\u00e9"⟩ (.ofList [wordBound, wordBound - 1, 0])
    let o : Outcome := ⟨.erroneous, 2, ⟨""⟩, .ofList [wordBound, wordBound - 1, 0, 1]⟩
    let s : Setup := ⟨⟨m.label, m.registers⟩, p⟩
    p.EachRegister (· < wordBound) ∧ m.steps < wordBound ∧ o.stepCount < wordBound
      ∧ m.snapshot.step < wordBound ∧ m.steps + 5 ≤ stepLimit
      ∧ (Json.read? (m.toJson.text .compact)).bind Machine.ofJson? = some m
      ∧ (Json.read? (s.toJson.text .compact)).bind Setup.ofJson? = some s
      ∧ (Json.read? (o.toJson.text .compact)).bind Outcome.ofJson? = some o
      ∧ (Json.read? (m.snapshot.toJson.text .compact)).bind Snapshot.ofJson? = some m.snapshot
      ∧ ∃ m', (Json.read? ((Machine.runFor Machine.ignore 5 () m).machine.toJson.text
            .compact)).bind Machine.ofJson? = some m'
        ∧ m'.reset = m ∧ m'.outcome? = some o := by
  intro p m o s
  have hp : p.EachRegister (· < wordBound) := by
    refine (Program.eachRegister_ofDefinitions_iff (by decide)).2 ?_
    simp [Instruction.register?, wordBound]
  have hm : m.steps < wordBound := by decide
  have ho : o.stepCount < wordBound := by decide
  have hlimit : m.steps + 5 ≤ stepLimit := by decide
  obtain ⟨hmachine, hsetup, houtcome, hsnapshot, hrun⟩ := read_saved_text .compact
  obtain ⟨m', hread, hreset, hend, -⟩ := hrun Machine.ignore 5 () m hp hlimit
  have hhalt : (Machine.runFor Machine.ignore 5 () m).machine.outcome? = some o := by
    decide +kernel
  exact ⟨hp, hm, ho, hm, hlimit, hmachine m hp hm, hsetup s hp, houtcome o ho, hsnapshot _ hm,
    m', hread, hreset, hend.trans hhalt⟩

end CounterMachine
