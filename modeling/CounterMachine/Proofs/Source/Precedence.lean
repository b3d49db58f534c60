import CounterMachine.Proofs.Source.FirstError

/-!
# Which fault of a line is told

A line of a program is asked several things, and it may fail in more than one of them.
`Rule` lists what is asked and `Definition.Breaks` says when a line fails in it, each with
the error that tells of it.  A line has one error, that of the first rule it breaks, in the
order in which the rules are checked.

This is not the order in which they are stated.  A register that is too high is noticed as
soon as it is read, before its operation is looked at, so that a line with both faults has
the error of the register, `unknown_operation_out_of_range`.  Where no such line is
concerned the two orders agree.

Main statement: the error of a line is that of the first rule it breaks,
`error_of_first_rule`.
-/

namespace CounterMachine

/-- What is asked of a line of a program. -/
inductive Rule where
  | form
  | label
  | operation
  | name
  | targets
  | range
deriving DecidableEq

namespace Rule

/-- The rules in the order in which they are stated. -/
def stated : List Rule := [form, label, operation, name, targets, range]

/-- The rules in the order in which they are checked. -/
def checked : List Rule := [form, label, operation, range, name, targets]

end Rule

def LoadError.rule? : LoadError → Option Rule
  | unreadable .. | noConfiguration | configuration .. => none
  | instruction .. => some .form
  | duplicateLabel .. => some .label
  | operation .. => some .operation
  | unknownOperation .. => some .name
  | arity .. => some .targets
  | registerRange .. => some .range

namespace Definition

open Text

/-- The label of a line is what stands before its only colon, when it is normalized, and
the body is what stands after it. -/
def Parts (line : Line) (label : Label) (body : List Char) : Prop :=
  ∃ name, line.text.toList = name ++ ':' :: body ∧ name ≠ [] ∧ ':' ∉ name ∧ ':' ∉ body
    ∧ label = .ofChars name

/-- A body is an operation of the form `name(rN)` with some targets behind it. -/
structure Calls (body name digits : List Char) (targets : List (List Char)) : Prop where
  body_eq : body = [','].intercalate ((name ++ '(' :: 'r' :: (digits ++ [')'])) :: targets)
  name : name ≠ [] ∧ name.all isWordChar
  digits : digits ≠ [] ∧ digits.all Char.isDigit
  targets : ∀ t ∈ targets, ',' ∉ t

/-- A line that comes after some others breaks a rule, and an error tells of it. -/
inductive Breaks (before : List Line) (line : Line) : Rule → LoadError → Prop
  | form (h : ∀ label body, ¬ Parts line label body) :
      Breaks before line .form (.instruction line.number line.text)
  | label {label : Label} {earlier : Line} (hlabel : Labels line label)
      (hearlier : earlier ∈ before) (h : Labels earlier label) :
      Breaks before line .label (.duplicateLabel line.number label earlier.number)
  | operation {label : Label} {body : List Char} (hparts : Parts line label body)
      (hhalt : body ≠ ['h', 'a', 'l', 't'])
      (h : ∀ name digits targets, ¬ Calls body name digits targets) :
      Breaks before line .operation (.operation line.number line.text)
  | name {label : Label} {body name digits : List Char} {targets : List (List Char)}
      (hparts : Parts line label body) (hcalls : Calls body name digits targets)
      (h : ∀ o : Operation, name ≠ o.name.toList) :
      Breaks before line .name (.unknownOperation line.number (String.ofList name))
  | targets {label : Label} {body digits : List Char} {targets : List (List Char)}
      {o : Operation} (hparts : Parts line label body)
      (hcalls : Calls body o.name.toList digits targets) (h : targets.length ≠ o.arity) :
      Breaks before line .targets (.arity line.number o targets.length)
  | range {label : Label} {body name digits : List Char} {targets : List (List Char)}
      (hparts : Parts line label body) (hcalls : Calls body name digits targets)
      (h : Registers.highest < numeral digits) :
      Breaks before line .range (.registerRange line.number (String.ofList digits))

/-- An error tells of the first of some rules that a line breaks. -/
def Reports (rules : List Rule) (before : List Line) (line : Line) (e : LoadError) : Prop :=
  ∃ rule, Breaks before line rule e
    ∧ ∀ earlier ∈ rules.takeWhile (· ≠ rule), ∀ e', ¬ Breaks before line earlier e'

variable {line : Line} {label : Label} {body name digits : List Char}
  {targets : List (List Char)} {e : LoadError}

/-! ## The parts of a line -/

theorem parts_iff : Parts line label body ↔ splitLabel line = .ok (label, body) :=
  splitLabel_eq_ok_iff.symm

theorem Parts.labels (h : Parts line label body) : Labels line label :=
  labels_of_splitLabel (parts_iff.1 h)

theorem exists_parts_of_labels (h : Labels line label) : ∃ body, Parts line label body := by
  obtain ⟨body, hsplit⟩ := labels_iff.1 h
  exact ⟨body, parts_iff.2 hsplit⟩

theorem Parts.unique (h : Parts line label body) {label' : Label} {body' : List Char}
    (h' : Parts line label' body') : label' = label ∧ body' = body := by
  have heq := (parts_iff.1 h').symm.trans (parts_iff.1 h)
  rw [Except.ok.injEq, Prod.mk.injEq] at heq
  exact heq

theorem splitLabel_of_not_parts (h : ∀ label body, ¬ Parts line label body) :
    splitLabel line = .error (.instruction line.number line.text) := by
  cases hsplit : splitLabel line with
  | ok labelled => exact absurd (parts_iff.2 hsplit) (h labelled.1 labelled.2)
  | error e =>
      unfold splitLabel at hsplit
      split at hsplit
      · split at hsplit
        · cases hsplit
        · exact hsplit.symm
      · exact hsplit.symm

/-! ## The operation of a body -/

theorem calls_iff :
    Calls body name digits targets ↔
      ∃ operation, pieces ',' body = operation :: targets
        ∧ operand? operation = some (name, digits) := by
  constructor
  · intro h
    have hname : ',' ∉ name := fun hm => absurd (List.all_eq_true.1 h.name.2 _ hm) (by decide)
    have hdigits : ',' ∉ digits := fun hm => absurd (List.all_eq_true.1 h.digits.2 _ hm) (by decide)
    refine ⟨name ++ '(' :: 'r' :: (digits ++ [')']), pieces_eq_iff.2 ⟨by simp, ?_, h.body_eq⟩,
      operand?_eq_some_iff.2 ⟨rfl, h.name, h.digits⟩⟩
    intro p hp
    rcases List.mem_cons.1 hp with rfl | hp
    · simp [hname, hdigits]
    · exact h.targets p hp
  · rintro ⟨operation, hpieces, hoperand⟩
    obtain ⟨rfl, hname, hdigits⟩ := operand?_eq_some_iff.1 hoperand
    obtain ⟨-, hcomma, hbody⟩ := pieces_eq_iff.1 hpieces
    exact ⟨hbody, hname, hdigits, fun t ht => hcomma t (List.mem_cons_of_mem _ ht)⟩

theorem Calls.unique (h : Calls body name digits targets) {name' digits' : List Char}
    {targets' : List (List Char)} (h' : Calls body name' digits' targets') :
    name' = name ∧ digits' = digits ∧ targets' = targets := by
  obtain ⟨operation, hpieces, hoperand⟩ := calls_iff.1 h
  obtain ⟨operation', hpieces', hoperand'⟩ := calls_iff.1 h'
  rw [hpieces, List.cons.injEq] at hpieces'
  obtain ⟨rfl, rfl⟩ := hpieces'
  rw [hoperand, Option.some.injEq, Prod.mk.injEq] at hoperand'
  exact ⟨hoperand'.1.symm, hoperand'.2.symm, rfl⟩

theorem build?_eq_none_iff {o : Operation} {r : Nat} :
    build? o r targets = none ↔ targets.length ≠ o.arity := by
  unfold build?
  split
  · simp [Operation.arity]
  · simp [Operation.arity]
  · next hincrement hdecrement =>
    refine iff_of_true rfl fun hlength => ?_
    cases o with
    | increment =>
        obtain ⟨next, rfl⟩ := List.length_eq_one_iff.1 hlength
        exact hincrement next rfl rfl
    | decrement =>
        obtain ⟨nonzero, zero, rfl⟩ := List.length_eq_two.1 hlength
        exact hdecrement nonzero zero rfl rfl

theorem parseBody_of_not_calls (hhalt : body ≠ ['h', 'a', 'l', 't'])
    (h : ∀ name digits targets, ¬ Calls body name digits targets) :
    parseBody line body = .error (.operation line.number line.text) := by
  unfold parseBody
  split
  · rfl
  · next operation targets hpieces =>
    have hnot : ¬ (operation = ['h', 'a', 'l', 't'] ∧ targets = []) := by
      rintro ⟨rfl, rfl⟩
      exact hhalt (by simpa [List.intercalate] using (pieces_eq_iff.1 hpieces).2.2)
    have hoperand : operand? operation = none := by
      by_contra hsome
      obtain ⟨⟨name, digits⟩, hsome⟩ := Option.ne_none_iff_exists'.1 hsome
      exact h name digits targets (calls_iff.2 ⟨operation, hpieces, hsome⟩)
    rw [if_neg hnot, parseOperation, hoperand]

theorem Calls.parseBody_eq (h : Calls body name digits targets) (line : Line) :
    ∃ operation, operand? operation = some (name, digits)
      ∧ parseBody line body = parseOperation line operation targets := by
  obtain ⟨operation, hpieces, hoperand⟩ := calls_iff.1 h
  refine ⟨operation, hoperand, ?_⟩
  have hnot : ¬ (operation = ['h', 'a', 'l', 't'] ∧ targets = []) := by
    rintro ⟨rfl, -⟩
    cases hoperand
  unfold parseBody
  rw [hpieces]
  exact if_neg hnot

theorem Calls.parseBody_of_range (h : Calls body name digits targets)
    (hr : Registers.highest < numeral digits) :
    parseBody line body = .error (.registerRange line.number (String.ofList digits)) := by
  obtain ⟨operation, hoperand, hbody⟩ := h.parseBody_eq line
  rw [hbody, parseOperation, hoperand]
  exact if_pos hr

theorem Calls.parseBody_of_name (h : Calls body name digits targets)
    (hr : ¬ Registers.highest < numeral digits) (hname : ∀ o : Operation, name ≠ o.name.toList) :
    parseBody line body = .error (.unknownOperation line.number (String.ofList name)) := by
  obtain ⟨operation, hoperand, hbody⟩ := h.parseBody_eq line
  have hnone : Operation.ofName? name = none := by
    rw [Option.eq_none_iff_forall_ne_some]
    intro o ho
    exact hname o (Operation.ofName?_eq_some_iff.1 ho)
  rw [hbody, parseOperation, hoperand]
  simp only [if_neg hr, hnone]

theorem Calls.parseBody_of_targets {o : Operation}
    (h : Calls body o.name.toList digits targets) (hr : ¬ Registers.highest < numeral digits)
    (htargets : targets.length ≠ o.arity) :
    parseBody line body = .error (.arity line.number o targets.length) := by
  obtain ⟨operation, hoperand, hbody⟩ := h.parseBody_eq line
  have ho : Operation.ofName? o.name.toList = some o := Operation.ofName?_eq_some_iff.2 rfl
  have hbuild : build? o (numeral digits) targets = none := build?_eq_none_iff.2 htargets
  rw [hbody, parseOperation, hoperand]
  simp only [if_neg hr, ho, hbuild]

theorem Calls.parseBody_ne_error {o : Operation}
    (h : Calls body o.name.toList digits targets) (hr : ¬ Registers.highest < numeral digits)
    (htargets : targets.length = o.arity) : parseBody line body ≠ .error e := by
  obtain ⟨operation, hoperand, hbody⟩ := h.parseBody_eq line
  have ho : Operation.ofName? o.name.toList = some o := Operation.ofName?_eq_some_iff.2 rfl
  obtain ⟨i, hi⟩ : ∃ i, build? o (numeral digits) targets = some i :=
    Option.ne_none_iff_exists'.1 fun hnone => build?_eq_none_iff.1 hnone htargets
  rw [hbody, parseOperation, hoperand]
  simp [if_neg hr, ho, hi]

/-! ## Broken rules -/

variable {before : List Line}

theorem Breaks.rule?_eq {rule : Rule} (h : Breaks before line rule e) : e.rule? = some rule := by
  cases h <;> rfl

theorem not_breaks_form (h : Parts line label body) : ¬ Breaks before line .form e := by
  rintro ⟨hform⟩
  exact hform label body h

theorem not_breaks_label (h : Parts line label body)
    (hnew : ∀ earlier ∈ before, ¬ Labels earlier label) : ¬ Breaks before line .label e := by
  intro hbreaks
  cases hbreaks with
  | @label label' earlier hlabel hearlier hdefined =>
      obtain rfl := (labels_iff_of_splitLabel (parts_iff.1 h)).1 hlabel
      exact hnew earlier hearlier hdefined

theorem not_breaks_operation (h : Parts line label body)
    (hcalls : Calls body name digits targets) : ¬ Breaks before line .operation e := by
  intro hbreaks
  cases hbreaks with
  | operation hparts _ hno =>
      obtain ⟨-, rfl⟩ := h.unique hparts
      exact hno name digits targets hcalls

theorem not_breaks_range (h : Parts line label body) (hcalls : Calls body name digits targets)
    (hr : ¬ Registers.highest < numeral digits) : ¬ Breaks before line .range e := by
  intro hbreaks
  cases hbreaks with
  | range hparts hcalls' hhigh =>
      obtain ⟨-, rfl⟩ := h.unique hparts
      obtain ⟨-, rfl, -⟩ := hcalls.unique hcalls'
      exact hr hhigh

theorem not_breaks_name {o : Operation} (h : Parts line label body)
    (hcalls : Calls body o.name.toList digits targets) : ¬ Breaks before line .name e := by
  intro hbreaks
  cases hbreaks with
  | name hparts hcalls' hunknown =>
      obtain ⟨-, rfl⟩ := h.unique hparts
      obtain ⟨rfl, -⟩ := hcalls.unique hcalls'
      exact hunknown o rfl

theorem reports_of_parseBody (hparts : Parts line label body)
    (hnew : ∀ earlier ∈ before, ¬ Labels earlier label) (h : parseBody line body = .error e) :
    Reports Rule.checked before line e := by
  have hform : ∀ e', ¬ Breaks before line .form e' := fun e' => not_breaks_form hparts
  have hlabel : ∀ e', ¬ Breaks before line .label e' := fun e' => not_breaks_label hparts hnew
  have hhalt : body ≠ ['h', 'a', 'l', 't'] := by
    rintro rfl
    cases h
  by_cases hcalls : ∃ name digits targets, Calls body name digits targets
  case neg =>
    simp only [not_exists] at hcalls
    rw [parseBody_of_not_calls hhalt hcalls, Except.error.injEq] at h
    subst h
    exact ⟨.operation, .operation hparts hhalt hcalls, by simp [Rule.checked, hform, hlabel]⟩
  obtain ⟨name, digits, targets, hcalls⟩ := hcalls
  have hoperation : ∀ e', ¬ Breaks before line .operation e' :=
    fun e' => not_breaks_operation hparts hcalls
  by_cases hr : Registers.highest < numeral digits
  case pos =>
    rw [hcalls.parseBody_of_range hr, Except.error.injEq] at h
    subst h
    exact ⟨.range, .range hparts hcalls hr, by simp [Rule.checked, hform, hlabel, hoperation]⟩
  have hrange : ∀ e', ¬ Breaks before line .range e' :=
    fun e' => not_breaks_range hparts hcalls hr
  by_cases hname : ∀ o : Operation, name ≠ o.name.toList
  case pos =>
    rw [hcalls.parseBody_of_name hr hname, Except.error.injEq] at h
    subst h
    exact ⟨.name, .name hparts hcalls hname,
      by simp [Rule.checked, hform, hlabel, hoperation, hrange]⟩
  simp only [not_forall, not_not] at hname
  obtain ⟨o, rfl⟩ := hname
  have hname : ∀ e', ¬ Breaks before line .name e' := fun e' => not_breaks_name hparts hcalls
  by_cases htargets : targets.length = o.arity
  case pos => exact absurd h (hcalls.parseBody_ne_error hr htargets)
  rw [hcalls.parseBody_of_targets hr htargets, Except.error.injEq] at h
  subst h
  exact ⟨.targets, .targets hparts hcalls htargets,
    by simp [Rule.checked, hform, hlabel, hoperation, hrange, hname]⟩

end Definition

namespace Draft

open Definition

variable {d : Draft} {before : List Line} {line : Line} {e : LoadError}

theorem add_eq_error_iff : d.add line = .error (.line e) ↔ d.Refuses line e := by
  constructor
  · exact refuses_of_add
  · intro h
    cases h with
    | label hsplit => rw [add, hsplit]
    | duplicate hlabel hseen => exact add_of_seen hlabel hseen
    | body hsplit hseen hbody =>
        rw [add, hsplit]
        simp only [hseen, hbody]

theorem Tells.seen_eq_none_iff (h : d.Tells before) {label : Label} :
    d.seen[label]? = none ↔ ∀ earlier ∈ before, ¬ Labels earlier label := by
  constructor
  · intro hnone earlier hearlier hlabel
    have hsome := (h.seen label earlier.number).2 ⟨earlier, hearlier, hlabel, rfl⟩
    rw [hnone] at hsome
    cases hsome
  · intro hnew
    rw [Option.eq_none_iff_forall_ne_some]
    intro n hsome
    obtain ⟨earlier, hearlier, hlabel, -⟩ := (h.seen label n).1 hsome
    exact hnew earlier hearlier hlabel

theorem Tells.refuses_iff (h : d.Tells before) :
    d.Refuses line e ↔ Reports Rule.checked before line e := by
  constructor
  · intro hrefuses
    cases hrefuses with
    | label hsplit =>
        have hnot : ∀ label body, ¬ Parts line label body := by
          intro label body hparts
          rw [parts_iff.1 hparts] at hsplit
          cases hsplit
        rw [splitLabel_of_not_parts hnot, Except.error.injEq] at hsplit
        subst hsplit
        exact ⟨.form, .form hnot, by simp [Rule.checked]⟩
    | @duplicate label first hlabel hseen =>
        obtain ⟨body, hparts⟩ := exists_parts_of_labels hlabel
        obtain ⟨earlier, hearlier, hdefined, rfl⟩ := (h.seen label first).1 hseen
        refine ⟨.label, .label hlabel hearlier hdefined, ?_⟩
        have hform : ∀ e', ¬ Breaks before line .form e' := fun e' => not_breaks_form hparts
        simp [Rule.checked, hform]
    | body hsplit hseen hbody =>
        exact reports_of_parseBody (parts_iff.2 hsplit) (h.seen_eq_none_iff.1 hseen) hbody
  · rintro ⟨rule, hbreaks, hfirst⟩
    -- a line with a label that is defined breaks a rule that comes before those of its body
    have hunseen : ∀ {label : Label} {body : List Char}, Parts line label body →
        Rule.label ∈ Rule.checked.takeWhile (· ≠ rule) → d.seen[label]? = none := by
      intro label body hparts hbefore
      refine h.seen_eq_none_iff.2 fun earlier hearlier hdefined => ?_
      exact hfirst .label hbefore _ (.label hparts.labels hearlier hdefined)
    have hinRange : ∀ {label : Label} {body name digits : List Char} {targets : List (List Char)},
        Parts line label body → Calls body name digits targets →
        Rule.range ∈ Rule.checked.takeWhile (· ≠ rule) →
        ¬ Registers.highest < Text.numeral digits :=
      fun hparts hcalls hbefore hr => hfirst .range hbefore _ (.range hparts hcalls hr)
    cases hbreaks with
    | form hform => exact .label (splitLabel_of_not_parts hform)
    | @label label earlier hlabel hearlier hdefined =>
        exact .duplicate hlabel ((h.seen label _).2 ⟨earlier, hearlier, hdefined, rfl⟩)
    | operation hparts hhalt hcalls =>
        exact .body (parts_iff.1 hparts) (hunseen hparts (by decide))
          (parseBody_of_not_calls hhalt hcalls)
    | name hparts hcalls hname =>
        exact .body (parts_iff.1 hparts) (hunseen hparts (by decide))
          (hcalls.parseBody_of_name (hinRange hparts hcalls (by decide)) hname)
    | targets hparts hcalls htargets =>
        exact .body (parts_iff.1 hparts) (hunseen hparts (by decide))
          (hcalls.parseBody_of_targets (hinRange hparts hcalls (by decide)) htargets)
    | range hparts hcalls hr =>
        exact .body (parts_iff.1 hparts) (hunseen hparts (by decide))
          (hcalls.parseBody_of_range hr)

end Draft

namespace Program

open Definition (Breaks Reports)

theorem reports_stated_iff {before : List Line} {line : Line}
    (h : ∀ e, Breaks before line .range e →
      ∀ e', ¬ Breaks before line .name e' ∧ ¬ Breaks before line .targets e') {e : LoadError} :
    Reports Rule.stated before line e ↔ Reports Rule.checked before line e := by
  refine exists_congr fun rule => and_congr_right fun hbreaks => ?_
  cases rule with
  | form => simp [Rule.stated, Rule.checked]
  | label => simp [Rule.stated, Rule.checked]
  | operation => simp [Rule.stated, Rule.checked]
  | name =>
      have hrange : ∀ e', ¬ Breaks before line .range e' :=
        fun e' hr => (h e' hr e).1 hbreaks
      simp [Rule.stated, Rule.checked, hrange]
  | targets =>
      have hrange : ∀ e', ¬ Breaks before line .range e' :=
        fun e' hr => (h e' hr e).2 hbreaks
      simp [Rule.stated, Rule.checked, hrange]
  | range =>
      have hname : ∀ e', ¬ Breaks before line .name e' := fun e' => (h e hbreaks e').1
      have htargets : ∀ e', ¬ Breaks before line .targets e' := fun e' => (h e hbreaks e').2
      simp [Rule.stated, Rule.checked, hname, htargets]

/-- **The error of a line is that of the first rule it breaks.**  After lines that are a
program, a line is refused just when it breaks a rule, and the error is that of the first
one in the order in which the rules are checked.  It is that of the first one in the order
in which they are stated as well, unless a register is too high in an operation that is
unknown or has the wrong number of targets. -/
theorem error_of_first_rule {before : List Line} {p : Program} (hp : ofLines before = .ok p)
    (line : Line) (e : LoadError) :
    (ofLines (before ++ [line]) = .error e ↔ Reports Rule.checked before line e)
      ∧ ((∀ e', Breaks before line .range e' →
            ∀ e'', ¬ Breaks before line .name e'' ∧ ¬ Breaks before line .targets e'') →
          (ofLines (before ++ [line]) = .error e ↔ Reports Rule.stated before line e)) := by
  obtain ⟨d, hd⟩ := exists_ofLines_iff.1 ⟨p, hp⟩
  have htells : d.Tells before := Draft.tells_empty.foldlM_add hd
  have hchecked : ofLines (before ++ [line]) = .error e ↔ Reports Rule.checked before line e := by
    rw [← htells.refuses_iff, ← Draft.add_eq_error_iff]
    constructor
    · exact add_of_ofLines hd
    · intro hadd
      have hrefused := ofLines_of_refused hd hadd []
      rwa [List.append_nil] at hrefused
  exact ⟨hchecked, fun h => hchecked.trans (reports_stated_iff h).symm⟩

/-- A line that has a label again, an unknown operation and a register that is too high;
one that has such a register and no target; and one that has an unknown operation and no
target, where the two orders agree. -/
theorem error_of_first_rule_several :
    let before : List Line := [⟨2, "a:halt"⟩]
    let again : Line := ⟨3, "A:jump(r70000)"⟩
    let high : Line := ⟨3, "b:inc(r70000)"⟩
    let unknown : Line := ⟨3, "b:jump(r0)"⟩
    ofLines before = .ok (.ofDefinitions [(⟨"a"⟩, .halt)])
      ∧ ofLines (before ++ [again]) = .error (.duplicateLabel 3 ⟨"a"⟩ 2)
      ∧ Reports Rule.checked before again (.duplicateLabel 3 ⟨"a"⟩ 2)
      ∧ ofLines (before ++ [high]) = .error (.registerRange 3 "70000")
      ∧ Reports Rule.checked before high (.registerRange 3 "70000")
      ∧ (∀ e', ¬ Breaks before unknown .range e')
      ∧ ofLines (before ++ [unknown]) = .error (.unknownOperation 3 "jump")
      ∧ Reports Rule.stated before unknown (.unknownOperation 3 "jump") := by
  intro before again high unknown
  have hp : ofLines before = .ok (.ofDefinitions [(⟨"a"⟩, .halt)]) := by
    decide +kernel
  have hagain : ofLines (before ++ [again]) = .error (.duplicateLabel 3 ⟨"a"⟩ 2) := by
    decide +kernel
  have hhigh : ofLines (before ++ [high]) = .error (.registerRange 3 "70000") := by
    decide +kernel
  have hunknown : ofLines (before ++ [unknown]) = .error (.unknownOperation 3 "jump") := by
    decide +kernel
  have hparts : Definition.Parts unknown ⟨"b"⟩ "jump(r0)".toList :=
    Definition.parts_iff.2 (by decide +kernel)
  have hcalls : Definition.Calls "jump(r0)".toList "jump".toList "0".toList [] :=
    Definition.calls_iff.2 ⟨"jump(r0)".toList, by decide +kernel, by decide +kernel⟩
  have hrange : ∀ e', ¬ Breaks before unknown .range e' :=
    fun e' => Definition.not_breaks_range hparts hcalls (by decide)
  have hstated := (error_of_first_rule hp unknown (.unknownOperation 3 "jump")).2
    fun e' hbreaks => absurd hbreaks (hrange e')
  exact ⟨hp, hagain, (error_of_first_rule hp again _).1.1 hagain, hhigh,
    (error_of_first_rule hp high _).1.1 hhigh, hrange, hunknown, hstated.1 hunknown⟩

/-- An unknown operation is not told of when its register is too high. -/
theorem unknown_operation_out_of_range :
    let line : Line := ⟨2, "a:jmp(r65536),b"⟩
    ofLines [] = .ok (.ofDefinitions [])
      ∧ ofLines ([] ++ [line]) = .error (.registerRange 2 "65536")
      ∧ Reports Rule.stated [] line (.unknownOperation 2 "jmp")
      ∧ ¬ Reports Rule.stated [] line (.registerRange 2 "65536") := by
  intro line
  have hline : ofLines ([] ++ [line]) = .error (.registerRange 2 "65536") := by
    decide +kernel
  have hparts : Definition.Parts line ⟨"a"⟩ "jmp(r65536),b".toList :=
    Definition.parts_iff.2 (by decide +kernel)
  have hcalls : Definition.Calls "jmp(r65536),b".toList "jmp".toList "65536".toList ["b".toList] :=
    Definition.calls_iff.2 ⟨"jmp(r65536)".toList, by decide +kernel, by decide +kernel⟩
  have hname : Breaks [] line .name (.unknownOperation 2 "jmp") :=
    .name hparts hcalls fun o => by cases o <;> decide
  have hform : ∀ e, ¬ Breaks [] line .form e := fun e => Definition.not_breaks_form hparts
  have hlabel : ∀ e, ¬ Breaks [] line .label e :=
    fun e => Definition.not_breaks_label hparts (by simp)
  have hoperation : ∀ e, ¬ Breaks [] line .operation e :=
    fun e => Definition.not_breaks_operation hparts hcalls
  refine ⟨rfl, hline, ⟨.name, hname, by simp [Rule.stated, hform, hlabel, hoperation]⟩, ?_⟩
  rintro ⟨rule, hbreaks, hfirst⟩
  obtain rfl : .range = rule := Option.some.inj hbreaks.rule?_eq
  exact hfirst .name (by decide) _ hname

end Program

end CounterMachine
