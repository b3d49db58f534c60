import CounterMachine.Proofs.Machine.ErroneousHalt
import CounterMachine.Proofs.Source.Writable
import CounterMachine.Report

/-!
# Reports are unambiguous

A report is plain text: commas stand between the fields of a line and inside the
registers, a label may hold commas and parentheses, and the summary follows the trace
without a mark.  The text can be taken apart all the same.

* `Registers.digitRows_text`: the values are the rows of digits of their text;
* `Snapshot.text_injective`: the step ends at the first comma of a line and the registers
  begin at its last parenthesis, whatever stands between them;
* `Report.pieces_text`: labels without white space leave the lines whole, and the last
  five of them are the summary.

Main statement: a report determines the trace and the outcome that it is about,
`Report.unambiguous`.
-/

namespace CounterMachine

open Text

/-! ## The digits in a text -/

namespace Text

/-- The rows of digits in a text. -/
def digitRows (cs : List Char) : List (List Char) :=
  (cs.splitOnP fun c => !c.isDigit).filter fun row => !row.isEmpty

theorem digitRows_append_cons {c : Char} (hc : c.isDigit = false) (as bs : List Char) :
    digitRows (as ++ c :: bs) = digitRows as ++ digitRows bs := by
  have hsep : (!c.isDigit) = true := by rw [hc, Bool.not_false]
  rw [digitRows, List.splitOnP_append_cons as bs hsep, List.filter_append, digitRows, digitRows]

theorem digitRows_cons {c : Char} (hc : c.isDigit = false) (cs : List Char) :
    digitRows (c :: cs) = digitRows cs :=
  digitRows_append_cons hc [] cs

theorem digitRows_repr (n : Nat) : digitRows n.repr.toList = [n.repr.toList] := by
  have hdigits : ∀ c ∈ n.repr.toList, (!c.isDigit) = false := by
    intro c hc
    rw [isDigit_of_mem_repr hc, Bool.not_true]
  rw [digitRows, List.splitOnP_eq_singleton hdigits]
  simp

end Text

/-! ## Registers -/

namespace Registers

def row (ns : List Nat) : List Char := (", ".intercalate (ns.map Nat.repr)).toList

theorem row_cons_cons (m n : Nat) (ns : List Nat) :
    row (m :: n :: ns) = m.repr.toList ++ ',' :: ' ' :: row (n :: ns) := by
  rw [row, row, String.toList_intercalate, String.toList_intercalate, List.map_cons, List.map_cons,
    List.map_cons, List.map_cons, List.intercalate_cons_cons, List.append_assoc]
  rfl

theorem row_singleton (n : Nat) : row [n] = n.repr.toList := by
  rw [row, String.toList_intercalate, List.map_cons, List.map_nil, List.map_cons, List.map_nil,
    List.intercalate_singleton]

theorem digitRows_row (ns : List Nat) : digitRows (row ns) = ns.map (·.repr.toList) := by
  induction ns with
  | nil => rfl
  | cons m ns ih =>
      cases ns with
      | nil => rw [row_singleton, digitRows_repr, List.map_cons, List.map_nil]
      | cons n ns =>
          rw [row_cons_cons, digitRows_append_cons (by decide), digitRows_cons (by decide),
            digitRows_repr, ih, List.singleton_append, List.map_cons (a := m)]

theorem mem_row {ns : List Nat} {c : Char} (h : c ∈ row ns) :
    c.isDigit = true ∨ c = ',' ∨ c = ' ' := by
  rw [row, String.toList_intercalate, List.map_map] at h
  rcases mem_of_mem_intercalate h with h | ⟨digits, hdigits, h⟩
  · exact Or.inr (by simpa using h)
  · obtain ⟨n, -, rfl⟩ := List.mem_map.1 hdigits
    exact Or.inl (isDigit_of_mem_repr h)

def inner (rs : Registers) : List Char :=
  row rs.toList ++ if rs.size = 1 then [',', ')'] else [')']

theorem toList_text (rs : Registers) : rs.text.toList = '(' :: rs.inner := by
  have hend : (if rs.size = 1 then ",)" else ")").toList
      = if rs.size = 1 then [',', ')'] else [')'] := by
    split <;> rfl
  rw [text, String.toList_append, String.toList_append, hend, inner, row]
  rfl

theorem mem_inner {rs : Registers} {c : Char} (h : c ∈ rs.inner) :
    c.isDigit = true ∨ c = ',' ∨ c = ' ' ∨ c = ')' := by
  rw [inner, List.mem_append] at h
  rcases h with h | h
  · have := mem_row h
    tauto
  · split at h <;> simp at h <;> tauto

theorem parenthesis_not_mem_inner (rs : Registers) : '(' ∉ rs.inner := by
  intro h
  have := mem_inner h
  revert this
  decide

theorem newline_not_mem_text (rs : Registers) : '\n' ∉ rs.text.toList := by
  rw [toList_text, List.mem_cons]
  rintro (h | h)
  · revert h
    decide
  · have := mem_inner h
    revert this
    decide

theorem digitRows_text (rs : Registers) :
    digitRows rs.text.toList = rs.toList.map (·.repr.toList) := by
  rw [toList_text, digitRows_cons (by decide), inner]
  split
  · rw [digitRows_append_cons (by decide), digitRows_row]
    exact List.append_nil _
  · rw [digitRows_append_cons (by decide), digitRows_row]
    exact List.append_nil _

theorem text_injective : Function.Injective text := by
  intro a b h
  have hrows : a.toList.map (·.repr.toList) = b.toList.map (·.repr.toList) := by
    rw [← digitRows_text, ← digitRows_text, h]
  have hrepr : Function.Injective fun n : Nat => n.repr.toList :=
    fun m n hmn => repr_injective (String.toList_inj.1 hmn)
  rw [← ofList_toList a, ← ofList_toList b, List.map_injective_iff.2 hrepr hrows]

end Registers

/-! ## Lines -/

theorem Snapshot.text_injective : Function.Injective Snapshot.text := by
  intro a b h
  have hline : ∀ s : Snapshot, s.text.toList
      = s.step.repr.toList ++ ',' :: (' ' :: s.label.text.toList ++ [',', ' '] ++
        '(' :: s.registers.inner) := by
    intro s
    simp [Snapshot.text, Registers.toList_text]
  have hcomma : ∀ n : Nat, ',' ∉ n.repr.toList := not_mem_repr (by decide)
  have hchars : a.text.toList = b.text.toList := congrArg String.toList h
  rw [hline, hline] at hchars
  obtain ⟨hstep, hrest⟩ := eq_of_first_separator (hcomma _) (hcomma _) hchars
  obtain ⟨hmiddle, hinner⟩ := eq_of_last_separator (Registers.parenthesis_not_mem_inner _)
    (Registers.parenthesis_not_mem_inner _) hrest
  have hlabel : a.label.text.toList = b.label.text.toList := by
    simpa using hmiddle
  have hregisters : a.registers.text.toList = b.registers.text.toList := by
    rw [Registers.toList_text, Registers.toList_text, hinner]
  obtain ⟨step, label, registers⟩ := a
  obtain ⟨step', label', registers'⟩ := b
  simp only at hstep hlabel hregisters
  rw [repr_injective (String.toList_inj.1 hstep), Label.ext (String.toList_inj.1 hlabel),
    Registers.text_injective (String.toList_inj.1 hregisters)]

/-- A label in one piece, without white space. -/
def Label.Solid (l : Label) : Prop := ∀ c ∈ l.text.toList, isBlank c = false

instance (l : Label) : Decidable l.Solid :=
  List.decidableBAll (fun c => isBlank c = false) l.text.toList

theorem Label.Solid.newline_not_mem {l : Label} (h : l.Solid) : '\n' ∉ l.text.toList :=
  fun hm => absurd (h _ hm) (by decide)

theorem Snapshot.newline_not_mem_text {s : Snapshot} (h : s.label.Solid) :
    '\n' ∉ s.text.toList := by
  have hstep : '\n' ∉ s.step.repr.toList := not_mem_repr (by decide) _
  simp [-Nat.toList_repr, Snapshot.text, hstep, h.newline_not_mem,
    Registers.newline_not_mem_text]

theorem HaltKind.title_injective : Function.Injective title := by
  intro a b h
  cases a <;> cases b <;> first | rfl | exact absurd h (by decide)

namespace Outcome

def lines (o : Outcome) : List (List Char) :=
  [o.kind.title.toList, [], "Final register state: ".toList ++ o.registers.text.toList,
    "Number of operations: ".toList ++ o.stepCount.repr.toList,
    "Last instruction label: ".toList ++ o.label.text.toList]

theorem length_lines (o : Outcome) : o.lines.length = 5 := rfl

theorem toList_summary (o : Outcome) : o.summary.toList = o.lines.flatMap (· ++ ['\n']) := by
  simp [summary, lines]

theorem lines_injective : Function.Injective lines := by
  intro a b h
  simp only [lines, List.cons.injEq, List.append_cancel_left_eq, String.toList_inj, true_and,
    and_true] at h
  obtain ⟨hkind, hregisters, hcount, hlabel⟩ := h
  obtain ⟨kind, stepCount, label, registers⟩ := a
  obtain ⟨kind', stepCount', label', registers'⟩ := b
  simp only at hkind hregisters hcount hlabel
  rw [HaltKind.title_injective hkind, Registers.text_injective hregisters, repr_injective hcount,
    Label.ext hlabel]

theorem newline_not_mem_lines {o : Outcome} (h : o.label.Solid) :
    ∀ line ∈ o.lines, '\n' ∉ line := by
  have hkind : '\n' ∉ o.kind.title.toList := by
    cases o.kind <;> decide
  have hcount : '\n' ∉ o.stepCount.repr.toList := not_mem_repr (by decide) _
  simp [-Nat.toList_repr, lines, hkind, hcount, h.newline_not_mem,
    Registers.newline_not_mem_text]

end Outcome

namespace Report

structure Solid (trace : List Snapshot) (o : Outcome) : Prop where
  trace : ∀ e ∈ trace, e.label.Solid
  outcome : o.label.Solid

def lines (trace : List Snapshot) (o : Outcome) : List (List Char) :=
  header.toList :: trace.map (·.text.toList) ++ o.lines

theorem toList_text (trace : List Snapshot) (o : Outcome) :
    (text trace o).toList = (lines trace o).flatMap (· ++ ['\n']) := by
  rw [text, String.toList_append, o.toList_summary, lines, List.flatMap_append]
  simp [traceText, String.toList_join, List.flatMap_map]

theorem pieces_text {trace : List Snapshot} {o : Outcome} (h : Solid trace o) :
    pieces '\n' (text trace o).toList = lines trace o ++ [[]] := by
  rw [toList_text]
  apply pieces_flatMap_terminated
  intro line hline
  rw [lines, List.mem_append, List.mem_cons, List.mem_map] at hline
  rcases hline with (rfl | ⟨e, he, rfl⟩) | hline
  · decide
  · exact Snapshot.newline_not_mem_text (h.trace e he)
  · exact Outcome.newline_not_mem_lines h.outcome line hline

/-- The summary is the same number of lines always, so the trace is what stands between
the header and it. -/
theorem lines_inj {trace₁ trace₂ : List Snapshot} {o₁ o₂ : Outcome}
    (h : lines trace₁ o₁ = lines trace₂ o₂) : trace₁ = trace₂ ∧ o₁ = o₂ := by
  have hlength : o₁.lines.length = o₂.lines.length := by
    rw [o₁.length_lines, o₂.length_lines]
  obtain ⟨htrace, hsummary⟩ := List.append_inj' h hlength
  have hline : Function.Injective fun s : Snapshot => s.text.toList :=
    fun a b hab => Snapshot.text_injective (String.toList_inj.1 hab)
  exact ⟨List.map_injective_iff.2 hline (List.tail_eq_of_cons_eq htrace),
    Outcome.lines_injective hsummary⟩

theorem text_inj {trace₁ trace₂ : List Snapshot} {o₁ o₂ : Outcome} (h₁ : Solid trace₁ o₁)
    (h₂ : Solid trace₂ o₂) (h : text trace₁ o₁ = text trace₂ o₂) : trace₁ = trace₂ ∧ o₁ = o₂ := by
  apply lines_inj
  have hpieces : lines trace₁ o₁ ++ [[]] = lines trace₂ o₂ ++ [[]] := by
    rw [← pieces_text h₁, ← pieces_text h₂, h]
  exact List.append_cancel_right hpieces

end Report

/-! ## Labels of loaded programs -/

namespace Label

theorem solid_of_isNormal {l : Label} (h : ∀ c ∈ l.text.toList, IsNormal c) : l.Solid :=
  fun c hc => (h c hc).1

theorem Definable.solid {l : Label} (h : l.Definable) : l.Solid :=
  solid_of_isNormal (normal_iff.1 h.normal)

theorem Targetable.solid {l : Label} (h : l.Targetable) : l.Solid :=
  solid_of_isNormal (normal_iff.1 h.normal)

end Label

theorem Machine.label_of_outcome {m : Machine} {o : Outcome} (h : m.outcome? = some o) :
    o.label = m.label := by
  rw [outcome?, status_of_outcome h] at h
  exact congrArg Outcome.label (Option.some.inj h).symm

namespace Setup

/-- The labels of a setup: where it starts, where its instructions are and where they
go to. -/
inductive HasLabel (s : Setup) : Label → Prop where
  | start : HasLabel s s.config.startLabel
  | definition {l : Label} {i : Instruction} : s.program.get? l = some i → HasLabel s l
  | target {l t : Label} {i : Instruction} :
      s.program.get? l = some i → t ∈ i.targets → HasLabel s t

theorem Writable.solid {s : Setup} (h : s.Writable) {l : Label} (hl : s.HasLabel l) : l.Solid := by
  cases hl with
  | start => exact Label.solid_of_isNormal h.start.isNormal
  | definition hi =>
      have hdefines : s.program.defines l = true := by
        rw [Program.defines_iff, hi]
        rfl
      exact (h.label l hdefines).solid
  | target hi ht => exact (h.targets _ _ hi l ht).solid

theorem hasLabel_iterate_next (s : Setup) (k : Nat) :
    s.HasLabel (Machine.next^[k] s.machine).label := by
  rcases s.arrived_iterate_next k with hlabel | ⟨l, i, hi, ht⟩
  · rw [hlabel]
    exact .start
  · exact .target hi ht

theorem solid_of_haltsIn {s : Setup} (h : s.Writable) {k : Nat} {o : Outcome}
    (hk : s.machine.HaltsIn k o) : Report.Solid (Machine.trace k s.machine) o where
  trace := by
    intro e he
    obtain ⟨i, hi⟩ := List.mem_iff_getElem?.1 he
    obtain ⟨-, rfl⟩ := Machine.getElem?_trace_eq_some_iff.1 hi
    exact h.solid (s.hasLabel_iterate_next i)
  outcome := by
    rw [Machine.label_of_outcome hk.outcome]
    exact h.solid (s.hasLabel_iterate_next k)

end Setup

namespace Report

/-- **A report determines what it is about.**  Two reports with the same text, of
whatever lengths, are about the same trace and the same outcome if the labels in them hold
no white space, as all labels of a loaded program do.  The text of registers and a line of
the trace are unambiguous with any labels. -/
theorem unambiguous :
    (∀ (trace₁ trace₂ : List Snapshot) (o₁ o₂ : Outcome), Solid trace₁ o₁ → Solid trace₂ o₂ →
        text trace₁ o₁ = text trace₂ o₂ → trace₁ = trace₂ ∧ o₁ = o₂)
      ∧ Function.Injective Registers.text
      ∧ Function.Injective Snapshot.text
      ∧ ∀ (source : String) (setup : Setup), Setup.load source = .ok setup →
          (∀ l, setup.HasLabel l → l.Solid)
            ∧ ∀ k o, setup.machine.HaltsIn k o → Solid (Machine.trace k setup.machine) o := by
  refine ⟨fun _ _ _ _ h₁ h₂ h => text_inj h₁ h₂ h, Registers.text_injective,
    Snapshot.text_injective, fun source setup hload => ?_⟩
  have hwritable := Setup.writable_of_load hload
  exact ⟨fun _ hl => hwritable.solid hl, fun _ _ hk => Setup.solid_of_haltsIn hwritable hk⟩

/-- A trace whose labels look like registers or are empty, written down in two ways; the same
line with the parenthesis in another field; and a loaded program that goes to an empty label. -/
theorem unambiguous_parentheses :
    let trace₁ : List Snapshot := [⟨0, ⟨"a,(1,"⟩, .ofList [1, 2]⟩, ⟨1, ⟨""⟩, .ofList [1]⟩]
    let trace₂ : List Snapshot :=
      [⟨0, ⟨"a,(1,"⟩, (Registers.ofList [0, 2]).modify 0 (· + 1)⟩,
        ⟨1, ⟨""⟩, Registers.empty.modify 0 (· + 1)⟩]
    let o₁ : Outcome := ⟨.erroneous, 2, ⟨""⟩, .ofList [1]⟩
    let o₂ : Outcome := ⟨.erroneous, 1 + 1, ⟨""⟩, Registers.empty.modify 0 (· + 1)⟩
    let setup : Setup := ⟨⟨⟨"a"⟩, .ofList [0]⟩, .ofDefinitions [(⟨"a"⟩, .increment 0 ⟨""⟩)]⟩
    (Solid trace₁ o₁ ∧ Solid trace₂ o₂ ∧ text trace₁ o₁ = text trace₂ o₂
        ∧ trace₁ = trace₂ ∧ o₁ = o₂)
      ∧ (Snapshot.mk 0 ⟨"a"⟩ (.ofList [])).text ≠ (Snapshot.mk 0 ⟨"a, ()"⟩ (.ofList [])).text
      ∧ (Registers.ofList [12]).text ≠ (Registers.ofList [1, 2]).text
      ∧ Setup.load "a, 0\na: inc(r0),\n" = .ok setup ∧ setup.machine.HaltsIn 2 o₁
      ∧ Solid (Machine.trace 2 setup.machine) o₁ := by
  intro trace₁ trace₂ o₁ o₂ setup
  have h₁ : Solid trace₁ o₁ := ⟨by decide +kernel, by decide +kernel⟩
  have h₂ : Solid trace₂ o₂ := ⟨by decide +kernel, by decide +kernel⟩
  have htext : text trace₁ o₁ = text trace₂ o₂ := by
    decide +kernel
  have hload : Setup.load "a, 0\na: inc(r0),\n" = .ok setup := by
    decide +kernel
  have hhalts : setup.machine.HaltsIn 2 o₁ := ⟨by decide +kernel, by decide +kernel⟩
  obtain ⟨hreports, hregisters, hline, hloaded⟩ := unambiguous
  have hlabel : Snapshot.mk 0 ⟨"a"⟩ (.ofList []) ≠ Snapshot.mk 0 ⟨"a, ()"⟩ (.ofList []) := by
    decide
  have hvalues : Registers.ofList [12] ≠ Registers.ofList [1, 2] := by
    decide
  exact ⟨⟨h₁, h₂, htext, hreports _ _ _ _ h₁ h₂ htext⟩, hline.ne hlabel, hregisters.ne hvalues,
    hload, hhalts, (hloaded _ _ hload).2 2 o₁ hhalts⟩

end Report

end CounterMachine
