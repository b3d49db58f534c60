import CounterMachine.Proofs.Command.RunAnswer
import CounterMachine.Proofs.Machine.ErroneousHalt
import CounterMachine.Proofs.Report.Unambiguous

/-!
# What a check answers

A check prints what a program is made of, a line for each thing, and after these lines
its notes: which labels that control may come to have no instruction.  No label and no
row of registers contains a line feed, so the lines can be told apart and the notes are
those that begin with `note: `.

Main statement: what the notes of a check name are the only labels where any run of
a loaded program can halt erroneously, and a check without a note foretells that none
does, `erroneous_halt_noted`.
-/

namespace CounterMachine

open Text

/-- The lines of a text that are notes. -/
def noteLines (text : String) : List String :=
  ((pieces '\n' text.toList).filter ("note: ".toList.isPrefixOf ·)).map String.ofList

namespace Response

def noteTexts (setup : Setup) (missing : List Label) : List String :=
  (if setup.program.defines setup.config.startLabel then []
      else ["note: start label " ++ setup.config.startLabel.text ++ " is undefined"])
    ++ (if missing = [] then []
      else ["note: jumps to undefined labels halt erroneously: "
        ++ ", ".intercalate (missing.map (·.text))])

def factTexts (setup : Setup) : List String :=
  ["start label:   " ++ setup.config.startLabel.text,
    "registers:     " ++ setup.config.registers.text,
    "instructions:  " ++ setup.program.size.repr]
    ++ (setup.program.highestRegister?.map fun r => "highest register used: r" ++ r.repr).toList

variable {setup : Setup} {missing : List Label}

theorem notes_eq (hm : setup.program.undefinedTargets? = some missing) :
    notes setup = String.join ((noteTexts setup missing).map (· ++ "\n")) := by
  simp only [notes, noteTexts, hm, Option.getD_some]
  split <;> split <;> simp [String.append_assoc]

theorem check_eq (hm : setup.program.undefinedTargets? = some missing) (path : String) :
    check path setup = success ("ok: " ++ path ++ "\n"
      ++ String.join ((factTexts setup ++ noteTexts setup missing).map (· ++ "\n"))) := by
  simp only [check, notes_eq hm, factTexts]
  cases setup.program.highestRegister? <;>
    simp only [Option.map_some, Option.map_none, Option.toList_some, Option.toList_none,
      List.append_nil, List.cons_append, List.nil_append, List.map_cons, String.join_cons,
      String.append_assoc, String.empty_append]

theorem filter_factTexts (setup : Setup) :
    ((factTexts setup).map String.toList).filter ("note: ".toList.isPrefixOf ·) = [] := by
  cases h : setup.program.highestRegister? <;> simp [factTexts, h]

theorem filter_noteTexts (setup : Setup) (missing : List Label) :
    ((noteTexts setup missing).map String.toList).filter ("note: ".toList.isPrefixOf ·)
      = (noteTexts setup missing).map String.toList := by
  unfold noteTexts
  split <;> split <;> simp

theorem newline_not_mem_factTexts (hw : setup.Writable) :
    ∀ line ∈ factTexts setup, '\n' ∉ line.toList := by
  have hstart := (hw.solid .start).newline_not_mem
  have hnumber : ∀ n : Nat, '\n' ∉ n.repr.toList := not_mem_repr (by decide)
  intro line hline
  simp only [factTexts, List.mem_append, List.mem_cons, List.not_mem_nil, or_false,
    Option.mem_toList, Option.map_eq_some_iff] at hline
  rcases hline with (rfl | rfl | rfl) | ⟨r, -, rfl⟩
  · simp [hstart]
  · simp [Registers.newline_not_mem_text]
  · simp [-Nat.toList_repr, hnumber]
  · simp [-Nat.toList_repr, hnumber]

theorem newline_not_mem_noteTexts (hw : setup.Writable) (hmissing : ∀ t ∈ missing, t.Solid) :
    ∀ line ∈ noteTexts setup missing, '\n' ∉ line.toList := by
  have hstart := (hw.solid .start).newline_not_mem
  have hlist : '\n' ∉ (", ".intercalate (missing.map (·.text))).toList := by
    rw [String.toList_intercalate, List.map_map]
    intro h
    rcases mem_of_mem_intercalate h with h | ⟨text, htext, h⟩
    · revert h
      decide
    · obtain ⟨t, ht, rfl⟩ := List.mem_map.1 htext
      exact (hmissing t ht).newline_not_mem h
  intro line hline
  rcases List.mem_append.1 hline with hline | hline
  · split at hline
    · cases hline
    · obtain rfl := List.mem_singleton.1 hline
      simp [hstart]
  · split at hline
    · cases hline
    · obtain rfl := List.mem_singleton.1 hline
      simpa using hlist

theorem noteLines_join (hw : setup.Writable) (hmissing : ∀ t ∈ missing, t.Solid) :
    noteLines (String.join ((factTexts setup ++ noteTexts setup missing).map (· ++ "\n")))
      = noteTexts setup missing := by
  have hline : ∀ line ∈ factTexts setup ++ noteTexts setup missing, '\n' ∉ line.toList := by
    intro line h
    rcases List.mem_append.1 h with h | h
    · exact newline_not_mem_factTexts hw line h
    · exact newline_not_mem_noteTexts hw hmissing line h
  rw [noteLines, pieces_join hline, List.map_append, List.filter_append, List.filter_append,
    filter_factTexts, filter_noteTexts]
  simp [Function.comp_def]

theorem noteTexts_eq_nil_iff :
    noteTexts setup missing = []
      ↔ setup.program.defines setup.config.startLabel = true ∧ missing = [] := by
  simp [noteTexts]

end Response

namespace Setup

/-- **A check foretells the erroneous halts.**  A check of a loaded program prints, after
the line with the path, a note for a start label without an instruction and a note for
the undefined targets.  Wherever steps, runs and resets take the machine of the program,
it halts erroneously only at a label that a note is about; and where no note is printed
no run ends so. -/
theorem erroneous_halt_noted {read : String → Except ReadFailure ByteArray}
    {path source : String} (hread : read path = .ok source.toUTF8) {setup : Setup}
    (hload : load source = .ok setup) :
    let start := setup.config.startLabel
    ∃ missing report, setup.program.undefinedTargets? = some missing
      ∧ (∀ t, t ∈ missing ↔ setup.program.defines t = false
          ∧ ∃ l i, setup.program.get? l = some i ∧ t ∈ i.targets)
      ∧ (∀ m, setup.machine.Reaches m → m.status = .halted .erroneous →
          setup.program.defines m.label = false ∧ (m.label = start ∨ m.label ∈ missing))
      ∧ (Command.check path).reply read = .response ⟨0, "ok: " ++ path ++ "\n" ++ report, ""⟩
      ∧ noteLines report =
          (if setup.program.defines start then []
            else ["note: start label " ++ start.text ++ " is undefined"])
          ++ (if missing = [] then []
            else ["note: jumps to undefined labels halt erroneously: "
              ++ ", ".intercalate (missing.map (·.text))])
      ∧ (noteLines report = [] ↔ setup.program.defines start = true ∧ missing = [])
      ∧ (noteLines report = [] →
          (∀ m, setup.machine.Reaches m → m.status ≠ .halted .erroneous)
            ∧ ∀ o events, setup.execute = .ok (o, events) → o.kind = .proper) := by
  intro start
  have hw := writable_of_load hload
  obtain ⟨-, defs, hn, -, hp⟩ := writable_iff.1 hw
  obtain ⟨missing, hm, hmem⟩ := Program.exists_undefinedTargets? hn
  rw [← hp] at hm hmem
  have hsolid : ∀ t ∈ missing, t.Solid := by
    intro t ht
    obtain ⟨-, l, i, hi, htarget⟩ := (hmem t).1 ht
    exact hw.solid (.target hi htarget)
  have hnotes := Response.noteLines_join hw hsolid
  refine ⟨missing, _, hm, hmem, fun m hreach he => ?_,
    (Command.replyWith_of_load_ok hread hload _).trans
      (congrArg Reply.response (Response.check_eq hm path)),
    hnotes, by rw [hnotes, Response.noteTexts_eq_nil_iff], fun hnone => ?_⟩
  · obtain ⟨k, rfl⟩ := Machine.reaches_start_iff.1 hreach
    exact label_of_erroneous hmem he
  · rw [hnotes, Response.noteTexts_eq_nil_iff] at hnone
    obtain ⟨hdefined, hnil⟩ := hnone
    constructor
    · intro m hreach
      obtain ⟨k, rfl⟩ := Machine.reaches_start_iff.1 hreach
      exact not_erroneous hmem hdefined hnil k
    · intro o events hexecute
      obtain ⟨k, -, hhalts, -⟩ := Program.execute_eq_ok_iff.1 hexecute
      have hstatus := Machine.status_of_outcome hhalts.outcome
      cases hkind : o.kind with
      | proper => rfl
      | erroneous =>
          rw [hkind] at hstatus
          exact absurd hstatus (not_erroneous hmem hdefined hnil k)

/-- A decrement that finds nothing to take goes to a label that is never defined. -/
theorem erroneous_halt_noted_zero :
    let source := "a, 0\na: dec(r0), a, b\n"
    let setup : Setup :=
      ⟨⟨⟨"a"⟩, .ofList [0]⟩, .ofDefinitions [(⟨"a"⟩, .decrement 0 ⟨"a"⟩ ⟨"b"⟩)]⟩
    let read : String → Except ReadFailure ByteArray := fun _ => .ok source.toUTF8
    let m := Machine.next^[2] setup.machine
    read "program.txt" = .ok source.toUTF8 ∧ load source = .ok setup
      ∧ setup.machine.Reaches m ∧ m.status = .halted .erroneous
      ∧ setup.program.defines m.label = false
      ∧ ∃ report, (Command.check "program.txt").reply read
          = .response ⟨0, "ok: program.txt\n" ++ report, ""⟩
        ∧ noteLines report = ["note: jumps to undefined labels halt erroneously: b"] := by
  intro source setup read m
  have hread : read "program.txt" = .ok source.toUTF8 := rfl
  have hload : load source = .ok setup := by
    decide +kernel
  have hreach : setup.machine.Reaches m := Machine.reaches_iterate_next setup.machine 2
  have hhalt : m.status = .halted .erroneous := by
    decide +kernel
  have htargets : setup.program.undefinedTargets? = some [⟨"b"⟩] := by
    decide +kernel
  have hstart : setup.program.defines setup.config.startLabel = true := by
    decide +kernel
  obtain ⟨missing, report, hmissing, -, hlabel, hreply, hnotes, -⟩ :=
    erroneous_halt_noted hread hload
  obtain rfl : missing = [⟨"b"⟩] := Option.some.inj (hmissing.symm.trans htargets)
  refine ⟨hread, hload, hreach, hhalt, (hlabel m hreach hhalt).1, report, hreply, ?_⟩
  rw [hnotes, if_pos hstart]
  decide +kernel

end Setup

end CounterMachine
