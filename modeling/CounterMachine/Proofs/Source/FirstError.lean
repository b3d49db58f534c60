import CounterMachine.Proofs.Source.Acceptance
import CounterMachine.Proofs.Source.NormalizedLines

/-!
# The first error

Lines are read one by one, and the first that cannot be added to the draft of the lines
before it decides the error.  `Draft.Tells` is the invariant of the reading: the table of
a draft has the label of each line so far with its number, and no two lines have one label.

* `foldlM_eq_error_iff`: what fails one by one fails at a first place;
* `Draft.refuses_of_add`: the ways in which a line is refused;
* `Draft.Tells.foldlM_add`: the invariant holds after any lines.

Main statement: the error is that of the first line at fault, and nothing after that line
matters, `load_first_error`.
-/

namespace CounterMachine

section Fold

variable {α β ε : Type} {f : β → α → Except ε β} {b c : β} {x : α} {e : ε}

theorem foldlM_cons_of_error (h : f b x = .error e) (xs : List α) :
    (x :: xs).foldlM f b = .error e := by
  rw [List.foldlM_cons, h]
  rfl

theorem foldlM_cons_of_ok (h : f b x = .ok c) (xs : List α) :
    (x :: xs).foldlM f b = xs.foldlM f c := by
  rw [List.foldlM_cons, h]
  rfl

theorem foldlM_eq_error_iff {xs : List α} :
    xs.foldlM f b = .error e ↔
      ∃ before x after c, xs = before ++ x :: after ∧ before.foldlM f b = .ok c
        ∧ f c x = .error e := by
  constructor
  · intro h
    induction xs generalizing b with
    | nil => cases h
    | cons x xs ih =>
        cases hx : f b x with
        | error e' =>
            rw [foldlM_cons_of_error hx] at h
            cases h
            exact ⟨[], x, xs, b, rfl, rfl, hx⟩
        | ok b' =>
            rw [foldlM_cons_of_ok hx] at h
            obtain ⟨before, y, after, c, rfl, hbefore, hy⟩ := ih h
            exact ⟨x :: before, y, after, c, rfl, (foldlM_cons_of_ok hx before).trans hbefore, hy⟩
  · rintro ⟨before, x, after, c, rfl, hbefore, hx⟩
    rw [List.foldlM_append, hbefore]
    exact foldlM_cons_of_error hx after

end Fold

namespace Definition

/-- What stands before the colon of a line is the label, when it is normalized. -/
def Labels (line : Line) (label : Label) : Prop :=
  ∃ name body, line.text.toList = name ++ ':' :: body ∧ name ≠ [] ∧ ':' ∉ name ∧ ':' ∉ body
    ∧ label = .ofChars name

/-- An error that a line has whatever stands before it. -/
structure OwnError (line : Line) (e : LoadError) : Prop where
  line? : e.line? = some line.number
  ne_duplicateLabel : ∀ n label first, e ≠ .duplicateLabel n label first

variable {line : Line} {label : Label} {body : List Char} {e : LoadError}

theorem labels_iff : Labels line label ↔ ∃ body, splitLabel line = .ok (label, body) := by
  simp only [splitLabel_eq_ok_iff]
  exact exists_comm

theorem labels_of_splitLabel (h : splitLabel line = .ok (label, body)) : Labels line label :=
  labels_iff.2 ⟨body, h⟩

theorem labels_iff_of_splitLabel (h : splitLabel line = .ok (label, body)) {l : Label} :
    Labels line l ↔ l = label := by
  constructor
  · intro hl
    obtain ⟨body', h'⟩ := labels_iff.1 hl
    rw [h, Except.ok.injEq, Prod.mk.injEq] at h'
    exact h'.1.symm
  · rintro rfl
    exact labels_of_splitLabel h

theorem ownError_splitLabel (h : splitLabel line = .error e) : OwnError line e := by
  unfold splitLabel at h
  split at h
  · split at h
    · cases h
    · cases h
      exact ⟨rfl, by simp⟩
  · cases h
    exact ⟨rfl, by simp⟩

theorem ownError_parseOperation {operation : List Char} {targets : List (List Char)}
    (h : parseOperation line operation targets = .error e) : OwnError line e := by
  unfold parseOperation at h
  split at h
  · cases h
    exact ⟨rfl, by simp⟩
  · split at h
    · cases h
      exact ⟨rfl, by simp⟩
    · split at h
      · cases h
        exact ⟨rfl, by simp⟩
      · split at h
        · cases h
        · cases h
          exact ⟨rfl, by simp⟩

theorem ownError_parseBody (h : parseBody line body = .error e) : OwnError line e := by
  unfold parseBody at h
  split at h
  · cases h
    exact ⟨rfl, by simp⟩
  · split at h
    · cases h
    · exact ownError_parseOperation h

end Definition

namespace Draft

open Definition

/-- The table of a draft has the label of each line with its number, and no other. -/
structure Tells (d : Draft) (lines : List Line) : Prop where
  seen : ∀ l n, d.seen[l]? = some n ↔ ∃ line ∈ lines, Labels line l ∧ line.number = n
  apart : lines.Pairwise fun a b => ∀ l, Labels a l → ¬ Labels b l

variable {d d' : Draft} {line : Line} {lines : List Line} {e : LoadError}

/-- How a line is refused.  The label is looked up before the body is looked at. -/
inductive Refuses (d : Draft) (line : Line) : LoadError → Prop
  | label {e : LoadError} (h : splitLabel line = .error e) : Refuses d line e
  | duplicate {label : Label} {first : Nat} (hl : Labels line label)
      (h : d.seen[label]? = some first) :
      Refuses d line (.duplicateLabel line.number label first)
  | body {label : Label} {body : List Char} {e : LoadError}
      (hsplit : splitLabel line = .ok (label, body)) (hseen : d.seen[label]? = none)
      (h : parseBody line body = .error e) : Refuses d line e

theorem refuses_of_add (h : d.add line = .error (.line e)) : Refuses d line e := by
  unfold add at h
  split at h
  · next hsplit =>
    cases h
    exact .label hsplit
  · next label body hsplit =>
    split at h
    · next hseen =>
      cases h
      exact .duplicate (labels_of_splitLabel hsplit) hseen
    · next hseen =>
      split at h
      · next hbody =>
        cases h
        exact .body hsplit hseen hbody
      · split at h <;> cases h

theorem add_of_seen {label : Label} {first : Nat} (hl : Labels line label)
    (h : d.seen[label]? = some first) :
    d.add line = .error (.line (.duplicateLabel line.number label first)) := by
  obtain ⟨body, hsplit⟩ := labels_iff.1 hl
  rw [add, hsplit]
  simp only [h]

theorem Refuses.line?_eq (h : Refuses d line e) : e.line? = some line.number := by
  cases h with
  | label h => exact (ownError_splitLabel h).line?
  | duplicate hl h => rfl
  | body hsplit hseen h => exact (ownError_parseBody h).line?

theorem Refuses.of_duplicateLabel {n first : Nat} {label : Label}
    (h : Refuses d line (.duplicateLabel n label first)) :
    Labels line label ∧ d.seen[label]? = some first := by
  cases h with
  | label h => exact absurd rfl ((ownError_splitLabel h).ne_duplicateLabel n label first)
  | duplicate hl h => exact ⟨hl, h⟩
  | body hsplit hseen h => exact absurd rfl ((ownError_parseBody h).ne_duplicateLabel n label first)

theorem seen_of_add (h : d.add line = .ok d') :
    ∃ label body, splitLabel line = .ok (label, body) ∧ d.seen[label]? = none
      ∧ d'.seen = d.seen.insert label line.number := by
  unfold add at h
  split at h
  · cases h
  · next label body hsplit =>
    split at h
    · cases h
    · next hseen =>
      split at h
      · cases h
      · split at h
        · cases h
        · cases h
          exact ⟨label, body, hsplit, hseen, rfl⟩

theorem tells_empty : Tells empty [] := by
  refine ⟨fun l n => ?_, .nil⟩
  simp [empty]

theorem Tells.add (h : Tells d lines) (hadd : d.add line = .ok d') :
    Tells d' (lines ++ [line]) := by
  obtain ⟨label, body, hsplit, hnone, hseen⟩ := seen_of_add hadd
  have hnew : ∀ a ∈ lines, ¬ Labels a label := by
    intro a ha hlabel
    have hsome := (h.seen label a.number).2 ⟨a, ha, hlabel, rfl⟩
    rw [hnone] at hsome
    cases hsome
  constructor
  · intro l n
    have hlast : (∃ a ∈ [line], Labels a l ∧ a.number = n) ↔ l = label ∧ line.number = n := by
      rw [← labels_iff_of_splitLabel hsplit]
      simp
    simp only [List.mem_append, or_and_right, exists_or, ← h.seen]
    rw [hlast, hseen, Std.ExtTreeMap.getElem?_insert]
    split
    · next heq =>
      obtain rfl : label = l := by simpa using heq
      simp [hnone]
    · next hne =>
      have hne' : l ≠ label := by
        rintro rfl
        simp at hne
      simp [hne']
  · rw [List.pairwise_append]
    refine ⟨h.apart, List.pairwise_singleton _ _, fun a ha b hb l hl hl' => ?_⟩
    obtain rfl := List.mem_singleton.1 hb
    rw [labels_iff_of_splitLabel hsplit] at hl'
    exact hnew a ha (hl' ▸ hl)

theorem Tells.foldlM_add (h : Tells d lines) {more : List Line}
    (hadd : more.foldlM Draft.add d = .ok d') : Tells d' (lines ++ more) := by
  induction more generalizing d lines with
  | nil =>
      cases hadd
      rwa [List.append_nil]
  | cons line more ih =>
      cases hline : d.add line with
      | error e =>
          rw [foldlM_cons_of_error hline] at hadd
          cases hadd
      | ok d'' =>
          rw [foldlM_cons_of_ok hline] at hadd
          rw [List.append_cons]
          exact ih (h.add hline) hadd

theorem Tells.exists_first (h : Tells d lines) {label : Label} {first : Nat}
    (hseen : d.seen[label]? = some first) :
    ∃ before line after, lines = before ++ line :: after ∧ Labels line label
      ∧ line.number = first ∧ ∀ other ∈ before ++ after, ¬ Labels other label := by
  obtain ⟨line, hline, hlabel, hnumber⟩ := (h.seen label first).1 hseen
  obtain ⟨before, after, rfl⟩ := List.append_of_mem hline
  refine ⟨before, line, after, rfl, hlabel, hnumber, fun other hother hlabel' => ?_⟩
  have hapart := h.apart
  rw [List.pairwise_append, List.pairwise_cons] at hapart
  obtain ⟨-, ⟨hafter, -⟩, hbefore⟩ := hapart
  rcases List.mem_append.1 hother with hmem | hmem
  · exact hbefore other hmem line List.mem_cons_self label hlabel' hlabel
  · exact hafter other hmem label hlabel hlabel'

end Draft

namespace Program

variable {lines before after : List Line} {line : Line} {d : Draft} {e : LoadError}

theorem ofLines_eq_error_iff :
    ofLines lines = .error e ↔ lines.foldlM Draft.add .empty = .error (.line e) := by
  have h := Draft.foldlM_add_empty lines
  constructor
  · intro he
    rw [he] at h
    cases hfold : lines.foldlM Draft.add .empty with
    | ok d =>
        rw [hfold] at h
        cases h
    | error refusal =>
        rw [hfold] at h
        exact congrArg Except.error (Except.error.inj h)
  · intro hfold
    rw [hfold] at h
    cases he : ofLines lines with
    | ok p =>
        rw [he] at h
        cases h
    | error e' =>
        rw [he] at h
        cases h
        rfl

theorem exists_ofLines_iff :
    (∃ p, ofLines lines = .ok p) ↔ ∃ d, lines.foldlM Draft.add .empty = .ok d := by
  have h := Draft.foldlM_add_empty lines
  constructor
  · rintro ⟨p, hp⟩
    cases hfold : lines.foldlM Draft.add .empty with
    | ok d => exact ⟨d, rfl⟩
    | error refusal =>
        rw [hfold, hp] at h
        cases h
  · rintro ⟨d, hfold⟩
    cases hp : ofLines lines with
    | ok p => exact ⟨p, rfl⟩
    | error e =>
        rw [hfold, hp] at h
        cases h

theorem ofLines_of_refused (hbefore : before.foldlM Draft.add .empty = .ok d)
    (h : d.add line = .error (.line e)) (after : List Line) :
    ofLines (before ++ [line] ++ after) = .error e := by
  rw [← List.append_cons]
  exact ofLines_eq_error_iff.2
    (foldlM_eq_error_iff.2 ⟨before, line, after, d, rfl, hbefore, h⟩)

theorem add_of_ofLines (hbefore : before.foldlM Draft.add .empty = .ok d)
    (h : ofLines (before ++ [line]) = .error e) : d.add line = .error (.line e) := by
  rw [ofLines_eq_error_iff, List.foldlM_append, hbefore] at h
  change [line].foldlM Draft.add d = _ at h
  cases hadd : d.add line with
  | error e' => rwa [foldlM_cons_of_error hadd] at h
  | ok d' =>
      rw [foldlM_cons_of_ok hadd] at h
      cases h

end Program

namespace Setup

theorem exists_significantLines_append (source more : String) :
    ∃ lines, significantLines (source ++ "\n" ++ more) = significantLines source ++ lines := by
  have hpieces : normalizedLines (source ++ "\n" ++ more)
      = normalizedLines source ++ normalizedLines more := by
    have htext : (source ++ "\n" ++ more).toList = source.toList ++ '\n' :: more.toList := by
      simp
    rw [normalizedLines, htext, Text.pieces_append_separator, List.map_append]
    rfl
  rw [significantLines_eq, significantLines_eq, hpieces, significantFrom_append]
  exact ⟨_, rfl⟩

/-- **Loading reports the first line at fault, and nothing after it matters.**  Lines fail
to be a program just when they begin with some that are one and a line that cannot be added
to them.  The error is that of this line, with its number, whatever comes after it.  It is
that of a label defined before just when one of the lines before has the label of the line,
whatever its body, and tells of the only such line.  A text whose configuration line is at
fault has the error of that line, whatever the other lines, and with a configuration it has
the error of those. -/
theorem load_first_error :
    (∀ lines, (∃ e, Program.ofLines lines = .error e) ↔
        ∃ pre l post, lines = pre ++ [l] ++ post ∧ (∃ p, Program.ofLines pre = .ok p)
          ∧ ∃ e, Program.ofLines (pre ++ [l]) = .error e)
      ∧ (∀ pre l p e, Program.ofLines pre = .ok p → Program.ofLines (pre ++ [l]) = .error e →
          (∀ post, Program.ofLines (pre ++ [l] ++ post) = .error e)
            ∧ e.line? = some l.number
            ∧ (∀ n label first, e = .duplicateLabel n label first →
                n = l.number ∧ Definition.Labels l label
                  ∧ ∃ before line after, pre = before ++ line :: after
                    ∧ Definition.Labels line label ∧ line.number = first
                    ∧ ∀ other ∈ before ++ after, ¬ Definition.Labels other label)
            ∧ ∀ label, Definition.Labels l label → ∀ line ∈ pre, Definition.Labels line label →
                e = .duplicateLabel l.number label line.number)
      ∧ (∀ source first rest, significantLines source = first :: rest →
          (∀ e, Configuration.ofLine first = .error e →
            load source = .error e ∧ ∀ more, load (source ++ "\n" ++ more) = .error e)
          ∧ ∀ config e, Configuration.ofLine first = .ok config →
            (load source = .error e ↔ Program.ofLines rest = .error e)) := by
  refine ⟨fun lines => ⟨?_, ?_⟩, fun pre l p e hp he => ?_,
    fun source first rest hlines => ⟨?_, ?_⟩⟩
  · rintro ⟨e, he⟩
    obtain ⟨pre, l, post, d, rfl, hpre, hl⟩ :=
      foldlM_eq_error_iff.1 (Program.ofLines_eq_error_iff.1 he)
    have hfails := Program.ofLines_of_refused hpre hl []
    rw [List.append_nil] at hfails
    exact ⟨pre, l, post, List.append_cons .., Program.exists_ofLines_iff.2 ⟨d, hpre⟩, e, hfails⟩
  · rintro ⟨pre, l, post, rfl, hp, e, he⟩
    obtain ⟨d, hpre⟩ := Program.exists_ofLines_iff.1 hp
    exact ⟨e, Program.ofLines_of_refused hpre (Program.add_of_ofLines hpre he) post⟩
  · obtain ⟨d, hpre⟩ := Program.exists_ofLines_iff.1 ⟨p, hp⟩
    have hl := Program.add_of_ofLines hpre he
    have hrefuses := Draft.refuses_of_add hl
    have htells : d.Tells pre := Draft.tells_empty.foldlM_add hpre
    refine ⟨Program.ofLines_of_refused hpre hl, hrefuses.line?_eq, ?_, ?_⟩
    · rintro n label first rfl
      obtain ⟨hlabel, hseen⟩ := hrefuses.of_duplicateLabel
      exact ⟨Option.some.inj hrefuses.line?_eq, hlabel, htells.exists_first hseen⟩
    · intro label hlabel line hline hlabel'
      have hseen := (htells.seen label line.number).2 ⟨line, hline, hlabel', rfl⟩
      have hduplicate := Draft.add_of_seen hlabel hseen
      rw [hl, Except.error.injEq, Draft.Refusal.line.injEq] at hduplicate
      exact hduplicate
  · intro e he
    refine ⟨by rw [load, hlines, ofLines, he], fun more => ?_⟩
    obtain ⟨lines, hmore⟩ := exists_significantLines_append source more
    rw [load, hmore, hlines, List.cons_append, ofLines, he]
  · intro config e hconfig
    rw [load, hlines, ofLines, hconfig]
    cases Program.ofLines rest <;> simp [Except.map]

/-- A line defines the label of the first one again and has no operation, and a line
without a label follows; a text has a configuration line without a value. -/
theorem load_first_error_again :
    let a : Line := ⟨2, "a:inc(r0),b"⟩
    let b : Line := ⟨3, "b:halt"⟩
    let again : Line := ⟨7, "A :jump"⟩
    let more : Line := ⟨8, "inc(r0)"⟩
    let e : LoadError := .duplicateLabel 7 ⟨"a"⟩ 2
    let source := "a b c\na: halt\na: halt\n"
    (∃ p, Program.ofLines [a, b] = .ok p) ∧ Program.ofLines [a, b, again] = .error e
      ∧ Definition.Labels again ⟨"a"⟩ ∧ Definition.Labels a ⟨"a"⟩
      ∧ Program.ofLines [a, b, again, more] = .error e
      ∧ load source = .error (.configuration 1 "abc")
      ∧ load (source ++ "\n" ++ "x") = .error (.configuration 1 "abc") := by
  intro a b again more e source
  have hagain : Definition.Labels again ⟨"a"⟩ :=
    Definition.labels_iff.2 ⟨"jump".toList, by decide +kernel⟩
  have ha : Definition.Labels a ⟨"a"⟩ :=
    Definition.labels_iff.2 ⟨"inc(r0),b".toList, by decide +kernel⟩
  have hp : Program.ofLines [a, b]
      = .ok (.ofDefinitions [(⟨"a"⟩, .increment 0 ⟨"b"⟩), (⟨"b"⟩, .halt)]) := by
    decide +kernel
  have hlines : significantLines source = [⟨1, "abc"⟩, ⟨2, "a:halt"⟩, ⟨3, "a:halt"⟩] := by
    decide +kernel
  have hconfig : Configuration.ofLine ⟨1, "abc"⟩ = .error (.configuration 1 "abc") := by
    decide +kernel
  obtain ⟨-, hfirst, htext⟩ := load_first_error
  have he : Program.ofLines ([a, b] ++ [again]) = .error e := by
    decide +kernel
  obtain ⟨hpost, -⟩ := hfirst [a, b] again _ e hp he
  obtain ⟨hload, hmore⟩ := (htext source _ _ hlines).1 _ hconfig
  exact ⟨⟨_, hp⟩, he, hagain, ha, hpost [more], hload, hmore "x"⟩

end Setup

end CounterMachine
