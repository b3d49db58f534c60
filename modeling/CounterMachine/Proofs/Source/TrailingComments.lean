import CounterMachine.Proofs.Source.LeftmostConfiguration
import CounterMachine.Proofs.Source.Precedence
import CounterMachine.Proofs.Source.Writable

/-!
# Comments at the end of a line

A line that begins with a number sign is skipped.  A number sign further on means nothing
to the reader of lines, and what becomes of it depends on who reads the line:

* the scan for the configuration stops at it, for it belongs to no word and to no value,
  `Configuration.find?_append`;
* a definition takes it in, `Definition.read_append`: the comment becomes a part of the
  last target, where `absorb` says which of its characters make the line fail instead.

Main statement: a comment behind a line of a program is ignored just when the line is the
configuration, and behind a definition it does what `absorb` says, `Setup.load_comment`.
-/

namespace CounterMachine

open Text

/-! ## Text behind a line -/

def Text.commentChars (comment : String) : List Char :=
  '#' :: normalizeChars comment.toList

def Line.append (line : Line) (cs : List Char) : Line :=
  ⟨line.number, String.ofList (line.text.toList ++ cs)⟩

def Line.appendAt (n : Nat) (cs : List Char) (line : Line) : Line :=
  if line.number = n then line.append cs else line

/-- The text with a comment at the end of a line, which is given by its number. -/
def commentLine (n : Nat) (comment source : String) : String :=
  let lines := ((pieces '\n' source.toList).zipIdx 1).map fun t =>
    if t.2 = n then t.1 ++ ' ' :: '#' :: comment.toList else t.1
  String.ofList (['\n'].intercalate lines)

@[simp] theorem Line.toList_text_append (line : Line) (cs : List Char) :
    (line.append cs).text.toList = line.text.toList ++ cs := String.toList_ofList

theorem Text.isNormal_of_mem_commentChars {comment : String} {c : Char}
    (h : c ∈ commentChars comment) : IsNormal c := by
  rcases List.mem_cons.1 h with rfl | h
  · decide
  · exact isNormal_of_mem_normalizeChars h

theorem Text.normalizeChars_append_comment (cs : List Char) (comment : String) :
    normalizeChars (cs ++ ' ' :: '#' :: comment.toList)
      = normalizeChars cs ++ commentChars comment := by
  rw [normalizeChars_append, normalizeChars_cons_of_isBlank (by decide),
    normalizeChars_cons_of_isNormal (by decide), commentChars]

theorem Line.isSignificant_append (line : Line) (cs : List Char) :
    (line.append ('#' :: cs)).isSignificant = line.isSignificant := by
  rw [Bool.eq_iff_iff, isSignificant_iff, isSignificant_iff, toList_text_append]
  cases line.text.toList with
  | nil => simp
  | cons c text => simp

theorem numberedLines_commentLine {comment : String} (h : '\n' ∉ comment.toList) (n : Nat)
    (source : String) :
    numberedLines (commentLine n comment source)
      = (numberedLines source).map (.appendAt n (commentChars comment)) := by
  have hpieces : pieces '\n' (commentLine n comment source).toList
      = ((pieces '\n' source.toList).zipIdx 1).map fun t =>
        if t.2 = n then t.1 ++ ' ' :: '#' :: comment.toList else t.1 := by
    refine pieces_eq_iff.2 ⟨?_, fun p hp => ?_, by simp [commentLine]⟩
    · simp [pieces_ne_nil]
    · obtain ⟨⟨cs, i⟩, hm, rfl⟩ := List.mem_map.1 hp
      have hcs : '\n' ∉ cs := not_mem_of_mem_pieces (List.fst_mem_of_mem_zipIdx hm)
      simp only
      split
      · simp [hcs, h]
      · exact hcs
  refine List.ext_getElem? fun i => ?_
  simp only [numberedLines, hpieces, List.getElem?_map, List.getElem?_zipIdx]
  cases (pieces '\n' source.toList)[i]? with
  | none => rfl
  | some cs =>
      simp only [Option.map_some, Option.some.injEq, Line.appendAt, Line.ofRaw]
      split
      · simp [Line.append, Text.normalize, normalizeChars_append_comment]
      · rfl

theorem significantLines_commentLine {comment : String} (h : '\n' ∉ comment.toList) (n : Nat)
    (source : String) :
    significantLines (commentLine n comment source)
      = (significantLines source).map (.appendAt n (commentChars comment)) := by
  have hsays : Line.isSignificant ∘ Line.appendAt n (commentChars comment)
      = Line.isSignificant := by
    funext line
    rw [Function.comp_apply, Line.appendAt]
    split
    · exact line.isSignificant_append _
    · rfl
  rw [significantLines, significantLines, numberedLines_commentLine h, List.filter_map, hsays]

theorem nodup_number_significantLines (source : String) :
    ((significantLines source).map Line.number).Nodup := by
  have hnumbers : (numberedLines source).map Line.number
      = List.range' 1 (pieces '\n' source.toList).length := by
    rw [numberedLines, List.map_map, ← List.zipIdx_map_snd]
    rfl
  have hsublist : ((significantLines source).map Line.number).Sublist
      ((numberedLines source).map Line.number) := List.filter_sublist.map _
  exact hsublist.nodup (hnumbers ▸ List.nodup_range')

theorem map_appendAt (before after : List Line) (line : Line) (cs : List Char)
    (h : ((before ++ line :: after).map Line.number).Nodup) :
    (before ++ line :: after).map (.appendAt line.number cs)
      = before ++ line.append cs :: after := by
  rw [(List.perm_middle.map Line.number).nodup_iff, List.map_cons, List.nodup_cons] at h
  have hrest : ∀ lines ⊆ before ++ after, lines.map (.appendAt line.number cs) = lines := by
    intro lines hlines
    refine (List.map_congr_left fun other hm => ?_).trans (List.map_id lines)
    exact if_neg fun heq => h.1 (List.mem_map.2 ⟨other, hlines hm, heq⟩)
  have hline : Line.appendAt line.number cs line = line.append cs := if_pos rfl
  rw [List.map_append, List.map_cons, hline, hrest before (List.subset_append_left before after),
    hrest after (List.subset_append_right before after)]

/-! ## The configuration -/

namespace Configuration

variable (cs ds : List Char)

theorem values_append : values (cs ++ '#' :: ds) = values cs := by
  have hspan (as : List Char) := span_append_cons (p := Char.isDigit) (c := '#') rfl as ds
  fun_induction values cs with
  | case1 =>
      rw [List.nil_append, values, if_neg (by simp)]
  | case2 c cs hc ih =>
      rw [List.cons_append, values, (hspan cs).1, (hspan cs).2, if_pos hc, ih]
  | case3 c cs hc =>
      rw [List.cons_append, values, (hspan cs).1, if_neg hc]

theorem atDigits_append : atDigits (cs ++ '#' :: ds) = atDigits cs := by
  obtain ⟨htake, hdrop⟩ := span_append_cons (p := Char.isDigit) (c := '#') rfl cs ds
  rw [atDigits, atDigits, htake, hdrop, values_append]

theorem atWord?_append : atWord? (cs ++ '#' :: ds) = atWord? cs := by
  obtain ⟨htake, hdrop⟩ := span_append_cons (p := isWordChar) (c := '#') (by decide) cs ds
  simp only [atWord?, htake, hdrop, values_append]

theorem here?_append (inWord : Bool) : here? inWord (cs ++ '#' :: ds) = here? inWord cs := by
  obtain ⟨htake, -⟩ := span_append_cons (p := Char.isDigit) (c := '#') rfl cs ds
  simp only [here?, htake, atDigits_append, atWord?_append]

variable {cs} {inWord : Bool} {config : Configuration}

theorem find?_append (h : find? inWord cs = some config) :
    find? inWord (cs ++ '#' :: ds) = some config := by
  induction cs generalizing inWord with
  | nil => cases h
  | cons c cs ih =>
      rw [find?_cons, Option.or_eq_some_iff] at h
      rw [List.cons_append, find?_cons, ← List.cons_append, here?_append, Option.or_eq_some_iff]
      exact h.imp_right (And.imp_right ih)

end Configuration

/-! ## Instructions with text behind them -/

def Label.append (l : Label) (cs : List Char) : Label :=
  ⟨String.ofList (l.text.toList ++ cs)⟩

theorem Label.ofChars_append {cs : List Char} (h : ∀ c ∈ cs, IsNormal c) (name : List Char) :
    ofChars (name ++ cs) = (ofChars name).append cs := by
  rw [ofChars, normalizeChars_append, normalizeChars_of_isNormal h, append, ofChars,
    String.toList_ofList]

theorem Label.append_ne {cs : List Char} (h : cs ≠ []) (l : Label) : l.append cs ≠ l := by
  intro heq
  have htext := congrArg (·.text.toList) heq
  simp only [append, String.toList_ofList, List.append_right_eq_self] at htext
  exact h htext

namespace Instruction

def operation? : Instruction → Option Operation
  | halt => none
  | increment .. => some .increment
  | decrement .. => some .decrement

def appendTarget (cs : List Char) : Instruction → Instruction
  | halt => halt
  | increment r next => increment r (next.append cs)
  | decrement r nonzero zero => decrement r nonzero (zero.append cs)

theorem appendTarget_ne {i : Instruction} {o : Operation} (ho : i.operation? = some o)
    {cs : List Char} (h : cs ≠ []) : i.appendTarget cs ≠ i := by
  cases i with
  | halt => cases ho
  | increment r next => simpa [appendTarget] using next.append_ne h
  | decrement r nonzero zero => simpa [appendTarget] using zero.append_ne h

end Instruction

namespace Definition

/-- What becomes of an instruction when more characters stand at the end of its line.  A
colon makes the line none with a label; behind `halt` nothing may stand; a comma begins a
further target; and what is left belongs to the last target. -/
def absorb (line : Line) (i : Instruction) (cs : List Char) : Except LoadError Instruction :=
  if ':' ∈ cs then .error (.instruction line.number (line.append cs).text)
  else
    match i.operation? with
    | none => .error (.operation line.number (line.append cs).text)
    | some o =>
      if ',' ∈ cs then .error (.arity line.number o (o.arity + cs.count ','))
      else .ok (i.appendTarget cs)

def read (line : Line) : Except LoadError (Label × Instruction) :=
  match splitLabel line with
  | .error e => .error e
  | .ok labelled => (parseBody line labelled.2).map (labelled.1, ·)

variable {line : Line} {label : Label} {body name digits cs : List Char} {i : Instruction}
  {o : Operation} {d : Label × Instruction} {e : LoadError}

/-! ### Reading and taking in -/

theorem read_of_parts (h : Parts line label body) :
    read line = (parseBody line body).map (label, ·) := by
  rw [read, parts_iff.1 h]

theorem reads_of_read (h : read line = .ok d) : Reads line d := by
  unfold read at h
  split at h
  · cases h
  · next labelled hsplit =>
    cases hbody : parseBody line labelled.2 with
    | error e =>
        rw [hbody] at h
        cases h
    | ok i =>
        rw [hbody] at h
        cases h
        exact reads_iff.2 ⟨labelled.2, hsplit, hbody⟩

theorem absorb_ne (hcs : cs ≠ []) : absorb line i cs ≠ .ok i := by
  intro h
  unfold absorb at h
  split at h
  · cases h
  · split at h
    · cases h
    · next o ho =>
      split at h
      · cases h
      · exact Instruction.appendTarget_ne ho hcs (Except.ok.inj h)

/-! ### The label -/

theorem Parts.append (h : Parts line label body) (hcs : ':' ∉ cs) :
    Parts (line.append cs) label (body ++ cs) := by
  obtain ⟨name, htext, hne, hname, hbody, hlabel⟩ := h
  refine ⟨name, ?_, hne, hname, ?_, hlabel⟩
  · rw [Line.toList_text_append, htext, List.append_assoc, List.cons_append]
  · rw [List.mem_append, not_or]
    exact ⟨hbody, hcs⟩

theorem Parts.of_append (h : Parts line label body) {label' : Label} {body' : List Char}
    (h' : Parts (line.append cs) label' body') : label' = label ∧ ':' ∉ cs := by
  obtain ⟨name, htext, -, hname, -, rfl⟩ := h
  obtain ⟨name', htext', -, hname', hbody', rfl⟩ := h'
  rw [Line.toList_text_append, htext, List.append_assoc, List.cons_append] at htext'
  obtain ⟨rfl, rfl⟩ := eq_of_first_separator hname hname' htext'
  exact ⟨rfl, fun hm => hbody' (List.mem_append_right body hm)⟩

/-! ### The body -/

theorem not_calls_halt_append {targets : List (List Char)} :
    ¬ Calls (['h', 'a', 'l', 't'] ++ '#' :: cs) name digits targets := by
  intro h
  obtain ⟨rest, hrest⟩ : ∃ rest, ['h', 'a', 'l', 't'] ++ '#' :: cs = name ++ '(' :: rest := by
    rw [h.body_eq]
    cases targets <;> simp [List.intercalate]
  have hhalt : ['h', 'a', 'l', 't'].all isWordChar = true := by decide
  -- what follows the word at the beginning is a number sign, and not the parenthesis
  have hsharp : (['h', 'a', 'l', 't'] ++ '#' :: cs).dropWhile isWordChar = '#' :: cs :=
    (span_append (List.all_eq_true.1 hhalt) (by simp; decide)).2
  have hparen : (name ++ '(' :: rest).dropWhile isWordChar = '(' :: rest :=
    (span_append (List.all_eq_true.1 h.name.2) (by simp; decide)).2
  rw [hrest, hparen, List.cons.injEq] at hsharp
  exact absurd hsharp.1 (by decide)

theorem Spells.exists_operand (h : Spells body i) (ho : i.operation? = some o) :
    ∃ digits r rest, body = operandChars o digits ++ ',' :: rest ∧ numeral? digits = some r
      ∧ r ≤ Registers.highest ∧ rest.count ',' + 1 = o.arity := by
  cases h with
  | halt => cases ho
  | @increment digits next r hd hr hn =>
      cases ho
      exact ⟨digits, r, next, rfl, hd, hr, by rw [List.count_eq_zero_of_not_mem hn]; rfl⟩
  | @decrement digits nonzero zero r hd hr hn hz =>
      cases ho
      refine ⟨digits, r, nonzero ++ ',' :: zero, rfl, hd, hr, ?_⟩
      rw [List.count_append, List.count_cons_self, List.count_eq_zero_of_not_mem hn,
        List.count_eq_zero_of_not_mem hz]
      rfl

theorem calls_operandChars {r : Nat} (hd : numeral? digits = some r) (rest : List Char) :
    Calls (operandChars o digits ++ ',' :: rest) o.name.toList digits (pieces ',' rest) := by
  have hcomma : ',' ∉ operandChars o digits := not_mem_operandChars hd (by decide) (by decide)
  refine calls_iff.2 ⟨operandChars o digits, pieces_append_cons hcomma rest, ?_⟩
  refine operand?_eq_some_iff.2 ⟨rfl, ?_, (numeral?_eq_some_iff.1 hd).1⟩
  cases o <;> decide

theorem Spells.parseBody_append_of_mem (h : Spells body i) (ho : i.operation? = some o)
    (hcs : ',' ∈ cs) (line : Line) :
    parseBody line (body ++ cs) = .error (.arity line.number o (o.arity + cs.count ',')) := by
  obtain ⟨digits, r, rest, rfl, hd, hr, harity⟩ := h.exists_operand ho
  have hcalls := calls_operandChars (o := o) hd (rest ++ cs)
  have hlength : (pieces ',' (rest ++ cs)).length = o.arity + cs.count ',' := by
    rw [length_pieces, List.count_append]
    omega
  have hpos : 0 < cs.count ',' := List.count_pos_iff.2 hcs
  have hrange : ¬ Registers.highest < numeral digits := by
    rw [(numeral?_eq_some_iff.1 hd).2]
    omega
  rw [List.append_assoc, List.cons_append, hcalls.parseBody_of_targets hrange (by omega),
    hlength]

theorem Spells.append (h : Spells body i) (ho : i.operation? = some o) (hcs : ',' ∉ cs)
    (hn : ∀ c ∈ cs, IsNormal c) : Spells (body ++ cs) (i.appendTarget cs) := by
  cases h with
  | halt => cases ho
  | @increment digits next r hd hr hnext =>
      rw [List.append_assoc, List.cons_append, Instruction.appendTarget,
        ← Label.ofChars_append hn]
      exact .increment hd hr (by simp [hnext, hcs])
  | @decrement digits nonzero zero r hd hr hnonzero hzero =>
      rw [List.append_assoc, List.cons_append, List.append_assoc, List.cons_append,
        Instruction.appendTarget, ← Label.ofChars_append hn]
      exact .decrement hd hr hnonzero (by simp [hzero, hcs])

theorem Spells.parseBody_append (h : Spells body i) (hn : ∀ c ∈ '#' :: cs, IsNormal c)
    (hcolon : ':' ∉ '#' :: cs) :
    parseBody (line.append ('#' :: cs)) (body ++ '#' :: cs) = absorb line i ('#' :: cs) := by
  rw [absorb, if_neg hcolon]
  cases ho : i.operation? with
  | none =>
      obtain rfl : i = .halt := by cases i <;> first | rfl | cases ho
      cases h
      exact parseBody_of_not_calls (by simp) fun _ _ _ => not_calls_halt_append
  | some o =>
      by_cases hcomma : ',' ∈ '#' :: cs
      · simp only [if_pos hcomma]
        exact h.parseBody_append_of_mem ho hcomma _
      · simp only [if_neg hcomma]
        exact parseBody_eq_ok_iff.2 (h.append ho hcomma hn)

theorem Reads.read_append (h : Reads line d) (hn : ∀ c ∈ '#' :: cs, IsNormal c) :
    read (line.append ('#' :: cs)) = (absorb line d.2 ('#' :: cs)).map (d.1, ·) := by
  obtain ⟨body, hsplit, hbody⟩ := reads_iff.1 h
  have hparts : Parts line d.1 body := parts_iff.2 hsplit
  have hspells : Spells body d.2 := parseBody_eq_ok_iff.1 hbody
  by_cases hcolon : ':' ∈ '#' :: cs
  · have hnot : ∀ label body, ¬ Parts (line.append ('#' :: cs)) label body :=
      fun _ _ hparts' => (hparts.of_append hparts').2 hcolon
    rw [absorb, if_pos hcolon, read, splitLabel_of_not_parts hnot]
    rfl
  · rw [read_of_parts (hparts.append hcolon), hspells.parseBody_append hn hcolon]

theorem refuses_of_read {dr : Draft} (h : read line = .error e)
    (hnew : ∀ label, Labels line label → dr.seen[label]? = none) : dr.Refuses line e := by
  unfold read at h
  split at h
  · next hsplit =>
    cases h
    exact .label hsplit
  · next labelled hsplit =>
    cases hbody : parseBody line labelled.2 with
    | error e' =>
        rw [hbody] at h
        cases h
        exact .body hsplit (hnew labelled.1 (labels_of_splitLabel hsplit)) hbody
    | ok i =>
        rw [hbody] at h
        cases h

end Definition

/-! ## Programs with text behind a line -/

theorem exists_forall₂_middle {α β : Type} {R : α → β → Prop} {as bs : List α} {a : α}
    {ys : List β} (h : List.Forall₂ R (as ++ a :: bs) ys) :
    ∃ before y after, ys = before ++ y :: after ∧ List.Forall₂ R as before ∧ R a y
      ∧ List.Forall₂ R bs after := by
  induction as generalizing ys with
  | nil =>
      cases h with
      | cons hay hbs => exact ⟨[], _, _, rfl, .nil, hay, hbs⟩
  | cons x as ih =>
      cases h with
      | @cons _ y _ ys hxy hrest =>
          obtain ⟨before, z, after, rfl, has, haz, hbs⟩ := ih hrest
          exact ⟨y :: before, z, after, rfl, .cons hxy has, haz, hbs⟩

namespace Program

/-- The program with another instruction at a label that it defines. -/
def redefine (p : Program) (l : Label) (i : Instruction) : Program :=
  ⟨p.table.insert l i, p.order⟩

theorem get?_redefine (p : Program) (l : Label) (i : Instruction) (l' : Label) :
    (p.redefine l i).get? l' = if l = l' then some i else p.get? l' := by
  rw [redefine, get?, Std.ExtTreeMap.getElem?_insert]
  simp [get?]

theorem ofDefinitions_middle {before after : List (Label × Instruction)} {l : Label}
    {i : Instruction} (h : ((before ++ (l, i) :: after).map (·.1)).Nodup) (i' : Instruction) :
    ofDefinitions (before ++ (l, i') :: after)
      = (ofDefinitions (before ++ (l, i) :: after)).redefine l i' := by
  have h' : ((before ++ (l, i') :: after).map (·.1)).Nodup := by simpa using h
  have horder : (ofDefinitions (before ++ (l, i') :: after)).order
      = (ofDefinitions (before ++ (l, i) :: after)).order := by simp
  have hget : ∀ l', (ofDefinitions (before ++ (l, i') :: after)).get? l'
      = ((ofDefinitions (before ++ (l, i) :: after)).redefine l i').get? l' := by
    intro l'
    rw [get?_redefine]
    split
    · next heq =>
      subst heq
      exact get?_ofDefinitions_of_mem h' (List.mem_append_right before List.mem_cons_self)
    · next hne =>
      refine Option.ext fun j => ?_
      rw [get?_ofDefinitions_eq_some_iff h', get?_ofDefinitions_eq_some_iff h]
      simp [Ne.symm hne]
  exact congrArg₂ Program.mk (Std.ExtTreeMap.ext_getElem? hget) horder

variable {before after : List Line} {line : Line} {d : Label × Instruction} {cs : List Char}
  {p : Program}

theorem exists_draft_of_ofLines (hp : ofLines (before ++ line :: after) = .ok p)
    (hd : Definition.Reads line d) :
    ∃ dr, before.foldlM Draft.add .empty = .ok dr ∧ dr.seen[d.1]? = none := by
  obtain ⟨all, hall⟩ := exists_ofLines_iff.1 ⟨p, hp⟩
  rw [List.foldlM_append] at hall
  cases hbefore : before.foldlM Draft.add .empty with
  | error e =>
      rw [hbefore] at hall
      cases hall
  | ok dr =>
      rw [hbefore] at hall
      change (line :: after).foldlM Draft.add dr = _ at hall
      refine ⟨dr, rfl, ?_⟩
      cases hadd : dr.add line with
      | error e =>
          rw [foldlM_cons_of_error hadd] at hall
          cases hall
      | ok dr' =>
          obtain ⟨label, body, hsplit, hnone, -⟩ := Draft.seen_of_add hadd
          obtain ⟨body', hsplit', -⟩ := Definition.reads_iff.1 hd
          rw [hsplit, Except.ok.injEq, Prod.mk.injEq] at hsplit'
          rwa [← hsplit'.1]

theorem ofLines_append (hp : ofLines (before ++ line :: after) = .ok p)
    (hd : Definition.Reads line d) (hn : ∀ c ∈ '#' :: cs, IsNormal c) :
    ofLines (before ++ line.append ('#' :: cs) :: after)
      = (Definition.absorb line d.2 ('#' :: cs)).map (p.redefine d.1) := by
  have hread := hd.read_append hn
  cases habsorb : Definition.absorb line d.2 ('#' :: cs) with
  | error e =>
      rw [habsorb] at hread
      obtain ⟨dr, hbefore, hnone⟩ := exists_draft_of_ofLines hp hd
      have hrefuses : dr.Refuses (line.append ('#' :: cs)) e := by
        refine Definition.refuses_of_read hread fun label hlabel => ?_
        obtain ⟨body, hparts⟩ := Definition.exists_parts_of_labels hlabel
        obtain ⟨body', hsplit, -⟩ := Definition.reads_iff.1 hd
        rwa [((Definition.parts_iff.2 hsplit).of_append hparts).1]
      rw [List.append_cons]
      exact ofLines_of_refused hbefore (Draft.add_eq_error_iff.2 hrefuses) after
  | ok i =>
      rw [habsorb] at hread
      have hreads : Definition.Reads (line.append ('#' :: cs)) (d.1, i) :=
        Definition.reads_of_read hread
      obtain ⟨defs, hforall, hnodup, rfl⟩ := ofLines_eq_ok_iff.1 hp
      obtain ⟨defsBefore, d', defsAfter, rfl, hbefore, hline, hafter⟩ :=
        exists_forall₂_middle hforall
      obtain rfl := hline.unique hd
      have hnodup' : ((defsBefore ++ (d'.1, i) :: defsAfter).map (·.1)).Nodup := by
        simpa using hnodup
      have hok := ofLines_eq_ok_iff.2
        ⟨_, List.rel_append hbefore (.cons hreads hafter), hnodup', rfl⟩
      rw [hok, ofDefinitions_middle hnodup]
      rfl

end Program

/-! ## Loading -/

namespace Setup

variable {setup : Setup} {first line : Line} {rest before after : List Line}
  {d : Label × Instruction} {cs : List Char}

theorem ofLines_append_configuration (h : ofLines (first :: rest) = .ok setup) (cs : List Char) :
    ofLines (first.append ('#' :: cs) :: rest) = .ok setup := by
  obtain ⟨first', rest', hlines, hconfig, hprogram⟩ := ofLines_eq_ok_iff.1 h
  cases hlines
  refine ofLines_eq_ok_iff.2 ⟨_, rest, rfl, ?_, hprogram⟩
  rw [Line.toList_text_append]
  exact Configuration.find?_append cs hconfig

theorem ofLines_append_definition (h : ofLines (first :: (before ++ line :: after)) = .ok setup)
    (hd : Definition.Reads line d) (hn : ∀ c ∈ '#' :: cs, IsNormal c) :
    ofLines (first :: (before ++ line.append ('#' :: cs) :: after))
      = (Definition.absorb line d.2 ('#' :: cs)).map fun i =>
        ⟨setup.config, setup.program.redefine d.1 i⟩ := by
  obtain ⟨first', rest', hlines, hconfig, hprogram⟩ := ofLines_eq_ok_iff.1 h
  cases hlines
  rw [ofLines, Configuration.ofLine_eq_ok_iff.2 hconfig]
  simp only [Program.ofLines_append hprogram hd hn]
  cases Definition.absorb line d.2 ('#' :: cs) <;> rfl

theorem map_absorb_ne (hget : setup.program.get? d.1 = some d.2) (hcs : cs ≠ []) :
    ((Definition.absorb line d.2 cs).map fun i =>
      (⟨setup.config, setup.program.redefine d.1 i⟩ : Setup)) ≠ .ok setup := by
  intro h
  cases habsorb : Definition.absorb line d.2 cs with
  | error e =>
      rw [habsorb] at h
      cases h
  | ok i =>
      rw [habsorb] at h
      have hprogram : setup.program.redefine d.1 i = setup.program :=
        congrArg Setup.program (Except.ok.inj h)
      have hinstruction := setup.program.get?_redefine d.1 i d.1
      rw [hprogram, hget, if_pos rfl, Option.some.injEq] at hinstruction
      exact Definition.absorb_ne hcs (hinstruction ▸ habsorb)

/-- **A comment behind a line is ignored when the line is the configuration, and only
then.**  Behind a definition it goes into the last target or makes the line fail, as
`Definition.absorb` says; the configuration and the other definitions stay as they are. -/
theorem load_comment {source comment : String} (hload : load source = .ok setup)
    (hline : line ∈ significantLines source) (hcomment : '\n' ∉ comment.toList) :
    let result := load (commentLine line.number comment source)
    (result = .ok setup ↔ (significantLines source).head? = some line)
      ∧ ((significantLines source).head? ≠ some line →
          ∃ d, Definition.Reads line d ∧ setup.program.get? d.1 = some d.2
            ∧ result = (Definition.absorb line d.2 (commentChars comment)).map fun i =>
              ⟨setup.config, setup.program.redefine d.1 i⟩) := by
  intro result
  have hnumbers := nodup_number_significantLines source
  have hcommented := significantLines_commentLine hcomment line.number source
  obtain ⟨first, rest, hlines, -, hprogram⟩ := ofLines_eq_ok_iff.1 hload
  rw [load, hlines] at hload
  rw [hlines] at hline hnumbers hcommented ⊢
  rcases List.mem_cons.1 hline with rfl | hrest
  · -- the scan for the configuration stops at the comment
    have hresult : result = .ok setup := by
      unfold result load
      rw [hcommented.trans (map_appendAt [] rest line _ hnumbers)]
      exact ofLines_append_configuration hload _
    exact ⟨iff_of_true hresult rfl, fun hne => absurd rfl hne⟩
  · -- the line is one of the definitions, and the comment changes only its instruction
    obtain ⟨before, after, rfl⟩ := List.append_of_mem hrest
    obtain ⟨defs, hforall, hnodup, hp⟩ := Program.ofLines_eq_ok_iff.1 hprogram
    obtain ⟨d, hd, hreads⟩ := Definition.exists_mem_of_reads hforall hrest
    have hget : setup.program.get? d.1 = some d.2 :=
      hp ▸ Program.get?_ofDefinitions_of_mem hnodup hd
    have hresult : result = (Definition.absorb line d.2 (commentChars comment)).map fun i =>
        ⟨setup.config, setup.program.redefine d.1 i⟩ := by
      unfold result load
      rw [hcommented.trans (map_appendAt (first :: before) after line _ hnumbers)]
      exact ofLines_append_definition hload hreads fun c hc => isNormal_of_mem_commentChars hc
    have hchanged : result ≠ .ok setup := hresult ▸ map_absorb_ne hget (List.cons_ne_nil _ _)
    have hhead : (first :: (before ++ line :: after)).head? ≠ some line := by
      rintro ⟨rfl⟩
      rw [List.map_cons, List.nodup_cons] at hnumbers
      exact hnumbers.1 (List.mem_map_of_mem hrest)
    exact ⟨iff_of_false hchanged hhead, fun _ => ⟨d, hreads, hget, hresult⟩⟩

/-- Behind the configuration a comment may hold anything; behind an instruction it lengthens
a target or brings more of them; behind `halt` even an empty one does not fit. -/
theorem load_comment_kinds :
    let source := "a, 1\na: dec(r0), a, b\nb: halt\n"
    let p : Program := .ofDefinitions [(⟨"a"⟩, .decrement 0 ⟨"a"⟩ ⟨"b"⟩), (⟨"b"⟩, .halt)]
    let setup : Setup := ⟨⟨⟨"a"⟩, .ofList [1]⟩, p⟩
    load source = .ok setup
      ∧ significantLines source = [⟨1, "a,1"⟩, ⟨2, "a:dec(r0),a,b"⟩, ⟨3, "b:halt"⟩]
      ∧ load (commentLine 1 " start: a, 7" source) = .ok setup
      ∧ load (commentLine 2 " Back" source)
        = .ok ⟨setup.config, p.redefine ⟨"a"⟩ (.decrement 0 ⟨"a"⟩ ⟨"b#back"⟩)⟩
      ∧ load (commentLine 2 " back, or on" source) = .error (.arity 2 .decrement 3)
      ∧ load (commentLine 3 "" source) = .error (.operation 3 "b:halt#") := by
  intro source p setup
  have hload : load source = .ok setup := by
    decide +kernel
  have hlines : significantLines source = [⟨1, "a,1"⟩, ⟨2, "a:dec(r0),a,b"⟩, ⟨3, "b:halt"⟩] := by
    decide +kernel
  have hconfig : ⟨1, "a,1"⟩ ∈ significantLines source := by simp [hlines]
  have hdec : ⟨2, "a:dec(r0),a,b"⟩ ∈ significantLines source := by simp [hlines]
  have hhalt : ⟨3, "b:halt"⟩ ∈ significantLines source := by simp [hlines]
  have hreads : Definition.Reads ⟨2, "a:dec(r0),a,b"⟩ (⟨"a"⟩, .decrement 0 ⟨"a"⟩ ⟨"b"⟩) :=
    Definition.reads_iff.2 ⟨"dec(r0),a,b".toList, by decide +kernel, by decide +kernel⟩
  have hreads' : Definition.Reads ⟨3, "b:halt"⟩ (⟨"b"⟩, .halt) :=
    Definition.reads_iff.2 ⟨"halt".toList, by decide +kernel, by decide +kernel⟩
  have hconfiguration : '\n' ∉ " start: a, 7".toList := by decide
  have hbehind : ∀ {line : Line} {d : Label × Instruction} (comment : String),
      line ∈ significantLines source → line ≠ ⟨1, "a,1"⟩ → Definition.Reads line d →
      '\n' ∉ comment.toList → load (commentLine line.number comment source)
        = (Definition.absorb line d.2 (commentChars comment)).map fun i =>
          ⟨setup.config, p.redefine d.1 i⟩ := by
    intro line d comment hline hne hd hcomment
    have hhead : (significantLines source).head? ≠ some line := by simpa [hlines] using hne.symm
    obtain ⟨d', hd', -, hresult⟩ := (load_comment hload hline hcomment).2 hhead
    rwa [hd.unique hd']
  refine ⟨hload, hlines, ?_, ?_, ?_, ?_⟩
  · exact (load_comment hload hconfig hconfiguration).1.2 (by rw [hlines]; rfl)
  · exact (hbehind " Back" hdec (by decide) hreads (by decide)).trans (by decide +kernel)
  · exact (hbehind " back, or on" hdec (by decide) hreads (by decide)).trans (by decide +kernel)
  · exact (hbehind "" hhalt (by decide) hreads' (by decide)).trans (by decide +kernel)

/-- A comment as it is written in the documentation makes an instruction go to a label
that no line has. -/
theorem comment_taken_for_target :
    let source := "# Comment\n1, 2, 3\n1: dec(r1), 2, 3\n2: inc(r0), 1\n3: halt\n"
    let documented :=
      "# Comment\n1, 2, 3\n1: dec(r1), 2, 3\n2: inc(r0), 1 # r0 += 1; goto 1\n3: halt\n"
    let p (next : Label) : Program := .ofDefinitions
      [(⟨"1"⟩, .decrement 1 ⟨"2"⟩ ⟨"3"⟩), (⟨"2"⟩, .increment 0 next), (⟨"3"⟩, .halt)]
    let setup (next : Label) : Setup := ⟨⟨⟨"1"⟩, .ofList [2, 3]⟩, p next⟩
    load source = .ok (setup ⟨"1"⟩)
      ∧ ⟨4, "2:inc(r0),1"⟩ ∈ significantLines source
      ∧ '\n' ∉ " r0 += 1; goto 1".toList
      ∧ commentLine 4 " r0 += 1; goto 1" source = documented
      ∧ load documented ≠ .ok (setup ⟨"1"⟩)
      ∧ load documented = .ok (setup ⟨"1#r0+=1;goto1"⟩)
      ∧ (p ⟨"1#r0+=1;goto1"⟩).undefinedTargets? = some [⟨"1#r0+=1;goto1"⟩] := by
  decide +kernel

end Setup

end CounterMachine
