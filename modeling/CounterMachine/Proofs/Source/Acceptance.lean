import CounterMachine.Proofs.Source.Grammar
import Mathlib.Control.Monad.Basic

/-!
# Accepted lines

Which lines are accepted as a program, and what the program has of them.

A program can also be written as it is read: `Draft` holds what has been defined so
far and where, and `Draft.add` takes one line more.  A draft keeps its table of line
numbers in step with its program, so no line defines a label twice, and all lines
together give what `ofLines` gives (`foldlM_add`).

Main statement: lines are accepted when each of them is in the grammar and no two
have one label, and then each line is one definition of the program, in order and
with nothing else defined, `ofLines_grammar`.
-/

namespace CounterMachine

namespace Definition

theorem Reads.unique {line : Line} {d e : Label × Instruction} (hd : Reads line d)
    (he : Reads line e) : d = e := by
  obtain ⟨body, hsplit, hbody⟩ := reads_iff.1 hd
  obtain ⟨body', hsplit', hbody'⟩ := reads_iff.1 he
  rw [hsplit, Except.ok.injEq, Prod.mk.injEq] at hsplit'
  obtain ⟨hlabel, rfl⟩ := hsplit'
  rw [hbody, Except.ok.injEq] at hbody'
  exact Prod.ext hlabel hbody'

theorem exists_mem_of_reads {lines : List Line} {defs : List (Label × Instruction)}
    (h : List.Forall₂ Reads lines defs) {line : Line} (hl : line ∈ lines) :
    ∃ d ∈ defs, Reads line d := by
  obtain ⟨hlength, hget⟩ := List.forall₂_iff_get.1 h
  obtain ⟨i, hi, rfl⟩ := List.getElem_of_mem hl
  have hi' : i < defs.length := hlength ▸ hi
  exact ⟨defs[i], List.getElem_mem hi', hget i hi hi'⟩

theorem exists_forall₂_reads_iff {lines : List Line} :
    (∃ defs, List.Forall₂ Reads lines defs ∧ (defs.map (·.1)).Nodup) ↔
      (∀ line ∈ lines, ∃ d, Reads line d)
        ∧ lines.Pairwise fun a b => ∀ d e, Reads a d → Reads b e → d.1 ≠ e.1 := by
  induction lines with
  | nil => simp
  | cons line lines ih =>
      rw [List.pairwise_cons]
      constructor
      · rintro ⟨defs, hreads, hn⟩
        cases hreads with
        | @cons _ d _ ds hline hlines =>
            rw [List.map_cons, List.nodup_cons] at hn
            obtain ⟨hall, hpairwise⟩ := ih.1 ⟨ds, hlines, hn.2⟩
            refine ⟨fun l hl => ?_, fun b hb d' e hd' he heq => ?_, hpairwise⟩
            · rcases List.mem_cons.1 hl with rfl | hl
              · exact ⟨d, hline⟩
              · exact hall l hl
            · obtain ⟨c, hc, hbc⟩ := exists_mem_of_reads hlines hb
              rw [hline.unique hd', heq, he.unique hbc] at hn
              exact hn.1 (List.mem_map_of_mem hc)
      · rintro ⟨hall, hapart, hpairwise⟩
        obtain ⟨d, hline⟩ := hall line List.mem_cons_self
        obtain ⟨ds, hlines, hn⟩ :=
          ih.2 ⟨fun l hl => hall l (List.mem_cons_of_mem line hl), hpairwise⟩
        refine ⟨d :: ds, .cons hline hlines, ?_⟩
        rw [List.map_cons, List.nodup_cons]
        refine ⟨fun hm => ?_, hn⟩
        obtain ⟨e, he, heq⟩ := List.mem_map.1 hm
        obtain ⟨b, hb, hbe⟩ := exists_reads_of_mem hlines he
        exact hapart b hb d e hline hbe heq.symm

end Definition

/-! ## Drafts -/

namespace Program

def define? (p : Program) (l : Label) (i : Instruction) : Option Program :=
  if p.defines l then none else some ⟨p.table.insert l i, p.order ++ [l]⟩

theorem ofDefinitions_concat (defs : List (Label × Instruction)) (l : Label) (i : Instruction) :
    ofDefinitions (defs ++ [(l, i)])
      = ⟨(ofDefinitions defs).table.insert l i, (ofDefinitions defs).order ++ [l]⟩ := by
  simp only [ofDefinitions, Std.ExtTreeMap.ofList_eq_insertMany_empty,
    Std.ExtTreeMap.insertMany_append, Std.ExtTreeMap.insertMany_list_singleton, List.map_append,
    List.map_cons, List.map_nil]

theorem define?_of_not_defines {p : Program} {l : Label} (h : p.defines l = false)
    (i : Instruction) : p.define? l i = some ⟨p.table.insert l i, p.order ++ [l]⟩ := by
  rw [define?, h]
  rfl

end Program

/-- A program on its way, with the line number of each label. -/
structure Draft where
  program : Program
  seen : Std.ExtTreeMap Label Nat

namespace Draft

def empty : Draft := ⟨.ofDefinitions [], ∅⟩

inductive Refusal where
  | line (error : LoadError)
  | redefined (label : Label)
deriving DecidableEq

def add (d : Draft) (line : Line) : Except Refusal Draft :=
  match Definition.splitLabel line with
  | .error e => .error (.line e)
  | .ok (label, body) =>
    match d.seen[label]? with
    | some first => .error (.line (.duplicateLabel line.number label first))
    | none =>
      match Definition.parseBody line body with
      | .error e => .error (.line e)
      | .ok instruction =>
        match d.program.define? label instruction with
        | none => .error (.redefined label)
        | some program => .ok ⟨program, d.seen.insert label line.number⟩

/-- The draft has these definitions, and the line of each label and of no other. -/
structure Holds (d : Draft) (defs : List (Label × Instruction)) : Prop where
  program : d.program = .ofDefinitions defs
  seen : ∀ l, d.seen[l]? = none ↔ d.program.defines l = false

variable {d : Draft} {defs : List (Label × Instruction)}

theorem holds_empty : Holds empty [] where
  program := rfl
  seen := fun l => by simp [empty, Program.defines, Program.ofDefinitions]

theorem Holds.add (h : Holds d defs) {line : Line} {label : Label} {body : List Char}
    {i : Instruction} (hsplit : Definition.splitLabel line = .ok (label, body))
    (hseen : d.seen[label]? = none) (hbody : Definition.parseBody line body = .ok i) :
    ∃ d', d.add line = .ok d' ∧ d'.seen = d.seen.insert label line.number
      ∧ Holds d' (defs ++ [(label, i)]) := by
  have hdefine := Program.define?_of_not_defines ((h.seen label).1 hseen) i
  refine ⟨⟨⟨d.program.table.insert label i, d.program.order ++ [label]⟩,
    d.seen.insert label line.number⟩, ?_, rfl, ?_, fun l => ?_⟩
  · rw [Draft.add, hsplit]
    simp only [hseen, hbody, hdefine]
  · rw [Program.ofDefinitions_concat, ← h.program]
  · rw [Definition.getElem?_insert_eq_none_iff, h.seen]
    simp [Program.defines, Std.ExtTreeMap.contains_insert]

theorem Holds.foldlM_add (h : Holds d defs) (lines : List Line) :
    (lines.foldlM Draft.add d).map Draft.program
      = ((Definition.parseLines d.seen lines).map
          fun more => Program.ofDefinitions (defs ++ more)).mapError .line := by
  induction lines generalizing d defs with
  | nil =>
      rw [Definition.parseLines, List.foldlM_nil]
      simp only [Except.map, Except.mapError, List.append_nil, ← h.program]
      rfl
  | cons line lines ih =>
      rw [List.foldlM_cons, Definition.parseLines]
      cases hsplit : Definition.splitLabel line with
      | error e =>
          rw [Draft.add, hsplit]
          rfl
      | ok labelled =>
          obtain ⟨label, body⟩ := labelled
          cases hseen : d.seen[label]? with
          | some first =>
              rw [Draft.add, hsplit]
              simp only [hseen]
              rfl
          | none =>
              cases hbody : Definition.parseBody line body with
              | error e =>
                  rw [Draft.add, hsplit]
                  simp only [hseen, hbody]
                  rfl
              | ok i =>
                  obtain ⟨d', hadd, hseen', hd'⟩ := h.add hsplit hseen hbody
                  rw [hadd]
                  simp only [hseen, hbody, ← hseen']
                  change (lines.foldlM Draft.add d').map Draft.program = _
                  rw [ih hd']
                  cases Definition.parseLines d'.seen lines with
                  | error e => rfl
                  | ok more => simp [Except.map, Except.mapError]

theorem foldlM_add_empty (lines : List Line) :
    (lines.foldlM add empty).map program = (Program.ofLines lines).mapError .line := by
  rw [holds_empty.foldlM_add, Program.ofLines]
  rfl

end Draft

namespace Program

/-- **Lines are accepted just when each is in the grammar and no two have one label.**
The program then has as many definitions as lines, those that the lines spell in
their order, and defines no other label; and a draft takes the lines one by one
without ever defining a label again. -/
theorem ofLines_grammar (lines : List Line) :
    ((∃ p, ofLines lines = .ok p) ↔
        (∀ line ∈ lines, ∃ d, Definition.Reads line d)
          ∧ lines.Pairwise fun a b =>
              ∀ d e, Definition.Reads a d → Definition.Reads b e → d.1 ≠ e.1)
      ∧ (∀ p, ofLines lines = .ok p → p.size = lines.length
          ∧ ∃ defs, p.definitions? = some defs ∧ List.Forall₂ Definition.Reads lines defs
            ∧ (∀ d ∈ defs, p.get? d.1 = some d.2)
            ∧ ∀ l, l ∉ defs.map (·.1) → p.get? l = none)
      ∧ (lines.foldlM Draft.add .empty).map Draft.program = (ofLines lines).mapError .line := by
  refine ⟨?_, fun p hp => ?_, Draft.foldlM_add_empty lines⟩
  · rw [← Definition.exists_forall₂_reads_iff]
    constructor
    · rintro ⟨p, hp⟩
      obtain ⟨defs, hreads, hn, -⟩ := ofLines_eq_ok_iff.1 hp
      exact ⟨defs, hreads, hn⟩
    · rintro ⟨defs, hreads, hn⟩
      exact ⟨_, ofLines_eq_ok_iff.2 ⟨defs, hreads, hn, rfl⟩⟩
  · obtain ⟨defs, hreads, hn, rfl⟩ := ofLines_eq_ok_iff.1 hp
    refine ⟨?_, defs, definitions?_ofDefinitions hn, hreads, fun d hd => ?_, fun l hl => ?_⟩
    · rw [size_ofDefinitions, hreads.length_eq]
    · exact get?_ofDefinitions_of_mem hn hd
    · exact get?_ofDefinitions_of_not_mem hl

/-- Raw lines with a label to be normalized, leading zeros and an empty target. -/
theorem ofLines_grammar_raw :
    let lines : List Line := [⟨3, "A B:inc(r007),"⟩, ⟨3, "#É:dec(r65535),a b,É"⟩]
    let p : Program := .ofDefinitions
      [(⟨"ab"⟩, .increment 7 ⟨""⟩), (⟨"#é"⟩, .decrement 65535 ⟨"ab"⟩ ⟨"é"⟩)]
    ofLines lines = .ok p ∧ p.size = 2
      ∧ (∀ line ∈ lines, ∃ d, Definition.Reads line d)
      ∧ ∃ defs, p.definitions? = some defs ∧ List.Forall₂ Definition.Reads lines defs := by
  intro lines p
  have hp : ofLines lines = .ok p := by
    decide +kernel
  obtain ⟨haccepted, hprogram, -⟩ := ofLines_grammar lines
  obtain ⟨hsize, defs, hdefs, hreads, -⟩ := hprogram p hp
  exact ⟨hp, hsize, (haccepted.1 ⟨p, hp⟩).1, defs, hdefs, hreads⟩

end Program

end CounterMachine
