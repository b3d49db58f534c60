import CounterMachine.Proofs.Text.NormalForm
import CounterMachine.Proofs.Source.ConfigurationScan
import CounterMachine.Text.Pieces
import Mathlib.Control.Monad.Basic
import Mathlib.Data.List.TakeWhile
import Mathlib.Data.Nat.Find

/-!
# The leftmost configuration

A configuration can begin at a place of a line in two shapes: with a whole word
of letters and underscores that a comma and a digit follow, or with a digit.
`MatchAt` says, without any scan, that a configuration begins at a place, and
`LongestGroups` which values belong to it.  The scan looks at the characters one
by one and remembers of the text before them only whether it ends in a word, yet
what it finds is the match at the first place that has one.

* `exists_longestGroups`: the values read are those of the longest row of groups;
* `matchAt_iff_here?`: one step of the scan finds the match at its place;
* `find?_eq_some_iff`: the scan finds the first match after the text before it;
* `ofLine_leftmost`: the reading of a line in terms of the matches alone.
-/

namespace CounterMachine

open Text

def Text.isLetter (c : Char) : Bool := c.isUpper || c.isLower || c == '_'

theorem Text.isLetter_eq (c : Char) : isLetter c = (isWordChar c && !c.isDigit) := by
  by_cases hd : c.isDigit = true
  · have hdigit := toNat_of_isDigit hd
    have hlower : c.isLower = false := by
      rw [Bool.eq_false_iff]
      intro hl
      have hlower := toNat_of_isLower hl
      omega
    have hupper : c.isUpper = false := by
      rw [Bool.eq_false_iff]
      intro hu
      have hupper := toNat_of_isUpper hu
      omega
    have hne : c ≠ '_' := by
      rintro rfl
      cases hd
    simp [isLetter, hlower, hupper, hd, hne]
  · simp [isLetter, isWordChar_eq, hd]

theorem Text.isLetter_iff {c : Char} :
    isLetter c = true ↔ isWordChar c = true ∧ c.isDigit = false := by
  rw [isLetter_eq, Bool.and_eq_true, Bool.not_eq_true']

namespace Configuration

/-! ## The values -/

/-- Rows of digits, each after a comma, at the beginning of a text. -/
structure Groups (cs : List Char) (rows : List (List Char)) : Prop where
  ne_nil : ∀ row ∈ rows, row ≠ []
  digits : ∀ row ∈ rows, ∀ c ∈ row, c.isDigit = true
  begins : rows.flatMap (',' :: ·) <+: cs

/-- The groups at the beginning of a text that take up the most of it. -/
structure LongestGroups (cs : List Char) (rows : List (List Char)) : Prop where
  groups : Groups cs rows
  longest : ∀ other, Groups cs other →
    (other.flatMap (',' :: ·)).length ≤ (rows.flatMap (',' :: ·)).length

def BeginsValue (cs : List Char) : Prop :=
  ∃ d after, cs = ',' :: d :: after ∧ d.isDigit = true

theorem takeWhile_isDigit_ne_nil_iff {cs : List Char} :
    cs.takeWhile Char.isDigit ≠ [] ↔ ∃ d after, cs = d :: after ∧ d.isDigit = true := by
  cases cs with
  | nil => simp
  | cons d after => by_cases hd : d.isDigit = true <;> simp [hd]

theorem beginsValue_cons_iff {c : Char} {cs : List Char} :
    BeginsValue (c :: cs) ↔ c = ',' ∧ cs.takeWhile Char.isDigit ≠ [] := by
  simp only [takeWhile_isDigit_ne_nil_iff, BeginsValue, List.cons.injEq]
  constructor
  · rintro ⟨d, after, ⟨hc, hcs⟩, hd⟩
    exact ⟨hc, d, after, hcs, hd⟩
  · rintro ⟨hc, d, after, hcs, hd⟩
    exact ⟨d, after, ⟨hc, hcs⟩, hd⟩

theorem values_ne_nil_iff {cs : List Char} : values cs ≠ [] ↔ BeginsValue cs := by
  cases cs with
  | nil => simp [values, BeginsValue]
  | cons c cs =>
      rw [values, beginsValue_cons_iff]
      split <;> simp_all

namespace Groups

theorem nil (cs : List Char) : Groups cs [] where
  ne_nil := by simp
  digits := by simp
  begins := List.nil_prefix

theorem not_mem {cs : List Char} {rows : List (List Char)} (h : Groups cs rows) :
    ∀ row ∈ rows, ',' ∉ row := by
  intro row hrow hc
  cases h.digits row hrow ',' hc

theorem cons_takeWhile {cs : List Char} {rows : List (List Char)}
    (hne : cs.takeWhile Char.isDigit ≠ []) (h : Groups (cs.dropWhile Char.isDigit) rows) :
    Groups (',' :: cs) (cs.takeWhile Char.isDigit :: rows) where
  ne_nil := List.forall_mem_cons.2 ⟨hne, h.ne_nil⟩
  digits := List.forall_mem_cons.2 ⟨fun _ hc => List.mem_takeWhile_imp hc, h.digits⟩
  begins := by
    obtain ⟨rest, hrest⟩ := h.begins
    refine ⟨rest, ?_⟩
    rw [List.flatMap_cons, List.cons_append, List.cons_append, List.append_assoc, hrest,
      List.takeWhile_append_dropWhile]

theorem of_cons {cs row : List Char} {rows : List (List Char)} (h : Groups cs (row :: rows)) :
    ∃ after, cs = ',' :: after ∧ after.takeWhile Char.isDigit ≠ []
      ∧ (rows = [] ∧ row <+: after.takeWhile Char.isDigit
        ∨ row = after.takeWhile Char.isDigit ∧ Groups (after.dropWhile Char.isDigit) rows) := by
  have hne := h.ne_nil row List.mem_cons_self
  have hdigits := h.digits row List.mem_cons_self
  have htail := fun r hr => List.mem_cons_of_mem row (a := r) (l := rows) hr
  obtain ⟨rest, hcs⟩ := h.begins
  refine ⟨row ++ (rows.flatMap (',' :: ·) ++ rest), by simp [← hcs], ?_, ?_⟩
  · rw [List.takeWhile_append_of_pos hdigits]
    simp [hne]
  · cases rows with
    | nil =>
        left
        rw [List.takeWhile_append_of_pos hdigits]
        exact ⟨rfl, List.prefix_append _ _⟩
    | cons next rows =>
        right
        have hcomma : ∀ c ∈ ((next :: rows).flatMap (',' :: ·) ++ rest).head?,
            c.isDigit = false := by
          simp
        have hspan := span_append hdigits hcomma
        rw [hspan.1, hspan.2]
        exact ⟨rfl, fun r hr => h.ne_nil r (htail r hr), fun r hr => h.digits r (htail r hr),
          List.prefix_append _ _⟩

end Groups

theorem exists_longestGroups (cs : List Char) :
    ∃ rows, LongestGroups cs rows ∧ values cs = rows.map numeral := by
  fun_induction values cs with
  | case1 =>
      refine ⟨[], ⟨.nil [], fun other hother => ?_⟩, rfl⟩
      rw [List.prefix_nil.1 hother.begins]
      rfl
  | case2 c cs hc ih =>
      obtain ⟨rfl, hne⟩ := hc
      obtain ⟨rows, hrows, hvalues⟩ := ih
      refine ⟨cs.takeWhile Char.isDigit :: rows, ⟨hrows.groups.cons_takeWhile hne, ?_⟩, by
        rw [hvalues, List.map_cons]⟩
      intro other hother
      cases other with
      | nil => simp
      | cons row other =>
          obtain ⟨after, hafter, -, hcases⟩ := hother.of_cons
          cases hafter
          simp only [List.flatMap_cons, List.length_append, List.length_cons]
          rcases hcases with ⟨rfl, hprefix⟩ | ⟨rfl, hnext⟩
          · have hlength := hprefix.length_le
            simp only [List.flatMap_nil, List.length_nil]
            omega
          · have hlength := hrows.longest other hnext
            omega
  | case3 c cs hc =>
      refine ⟨[], ⟨.nil _, fun other hother => ?_⟩, rfl⟩
      cases other with
      | nil => exact Nat.le_refl _
      | cons row other =>
          obtain ⟨after, hafter, hne, -⟩ := hother.of_cons
          cases hafter
          exact absurd ⟨rfl, hne⟩ hc

theorem pieces_flatMap_group {row : List Char} {rows : List (List Char)} (hrow : ',' ∉ row)
    (h : ∀ r ∈ rows, ',' ∉ r) : pieces ',' (row ++ rows.flatMap (',' :: ·)) = row :: rows := by
  induction rows generalizing row with
  | nil => rw [List.flatMap_nil, List.append_nil, pieces_eq_singleton hrow]
  | cons next rows ih =>
      obtain ⟨hnext, hrows⟩ := List.forall_mem_cons.1 h
      rw [List.flatMap_cons, List.cons_append, pieces_append_cons hrow, ih hnext hrows]

namespace LongestGroups

theorem eq {cs : List Char} {rows other : List (List Char)} (h : LongestGroups cs rows)
    (hother : LongestGroups cs other) : rows = other := by
  have hlength := Nat.le_antisymm (hother.longest _ h.groups) (h.longest _ hother.groups)
  have htext : rows.flatMap (',' :: ·) = other.flatMap (',' :: ·) :=
    (List.prefix_of_prefix_length_le h.groups.begins hother.groups.begins hlength.le).eq_of_length
      hlength
  have hpieces := congrArg (fun text => pieces ',' ([] ++ text)) htext
  simp only [pieces_flatMap_group List.not_mem_nil h.groups.not_mem,
    pieces_flatMap_group List.not_mem_nil hother.groups.not_mem, List.cons.injEq] at hpieces
  exact hpieces.2

theorem values_eq {cs : List Char} {rows : List (List Char)} (h : LongestGroups cs rows) :
    values cs = rows.map numeral := by
  obtain ⟨read, hread, hvalues⟩ := exists_longestGroups cs
  rw [hvalues, hread.eq h]

end LongestGroups

/-! ## The places of a match -/

/-- A whole word of letters at a place of a text, with a value after it: no word
character stands before it, and the comma of the value ends it. -/
structure WordAt (cs : List Char) (p : Nat) (word rest : List Char) : Prop where
  here : cs.drop p = word ++ rest
  ne_nil : word ≠ []
  letters : ∀ c ∈ word, isLetter c = true
  apart : ∀ c ∈ (cs.take p).getLast?, isWordChar c = false
  value : BeginsValue rest

/-- All the digits from a digit of a text on. -/
structure DigitsAt (cs : List Char) (p : Nat) (digits rest : List Char) : Prop where
  here : cs.drop p = digits ++ rest
  ne_nil : digits ≠ []
  digits : ∀ c ∈ digits, c.isDigit = true
  maximal : ∀ c ∈ rest.head?, c.isDigit = false

/-- A configuration can begin at a place: there is a word with a value after it, or
a digit. -/
def Matches (cs : List Char) (p : Nat) : Prop :=
  (∃ word rest, WordAt cs p word rest) ∨ ∃ c, cs[p]? = some c ∧ c.isDigit = true

/-- The configuration that begins at a place of a text. -/
inductive MatchAt (cs : List Char) (p : Nat) : Configuration → Prop where
  | word {word rest : List Char} {rows : List (List Char)} :
      WordAt cs p word rest → LongestGroups rest rows →
      MatchAt cs p ⟨.ofChars word, .ofList (rows.map numeral)⟩
  | digits {digits rest : List Char} {rows : List (List Char)} :
      DigitsAt cs p digits rest → LongestGroups rest rows →
      MatchAt cs p ⟨⟨String.ofList digits⟩, .ofList (rows.map numeral)⟩

/-- The configuration that begins with the first character of a text. -/
def here? (inWord : Bool) (cs : List Char) : Option Configuration :=
  if cs.takeWhile Char.isDigit ≠ [] then some (atDigits cs)
  else if inWord then none else atWord? cs

theorem find?_cons (inWord : Bool) (c : Char) (cs : List Char) :
    find? inWord (c :: cs) = (here? inWord (c :: cs)).or (find? (isWordChar c) cs) := by
  by_cases hc : c.isDigit = true
  · simp [find?, here?, hc]
  · cases inWord with
    | true => simp [find?, here?, hc]
    | false => cases h : atWord? (c :: cs) <;> simp [find?, here?, hc, h]

theorem ofChars_of_isDigit {ds : List Char} (h : ∀ c ∈ ds, c.isDigit = true) :
    Label.ofChars ds = ⟨String.ofList ds⟩ := by
  rw [Label.ofChars, normalizeChars_of_isNormal fun c hc => isNormal_of_isDigit (h c hc)]

section Place

variable {cs word rest : List Char} {p : Nat} {config : Configuration}

theorem digitsAt_takeWhile (h : (cs.drop p).takeWhile Char.isDigit ≠ []) :
    DigitsAt cs p ((cs.drop p).takeWhile Char.isDigit) ((cs.drop p).dropWhile Char.isDigit) where
  here := List.takeWhile_append_dropWhile.symm
  ne_nil := h
  digits := fun _ hc => List.mem_takeWhile_imp hc
  maximal := by
    intro c hc
    have h := List.head?_dropWhile_not Char.isDigit (cs.drop p)
    simpa [Option.mem_def.1 hc] using h

theorem DigitsAt.atDigits_eq {digits : List Char} {rows : List (List Char)}
    (h : DigitsAt cs p digits rest) (hrows : LongestGroups rest rows) :
    atDigits (cs.drop p) = ⟨⟨String.ofList digits⟩, .ofList (rows.map numeral)⟩ := by
  have hspan := span_append h.digits h.maximal
  rw [atDigits, h.here, hspan.1, hspan.2, ofChars_of_isDigit h.digits, hrows.values_eq]

theorem atWord?_eq_some_iff :
    atWord? cs = some config ↔
      ∃ word rest, cs = word ++ rest ∧ word ≠ [] ∧ (∀ c ∈ word, isLetter c = true)
        ∧ BeginsValue rest ∧ ⟨.ofChars word, .ofList (values rest)⟩ = config := by
  simp only [atWord?, Option.ite_none_right_eq_some, Option.some.injEq, values_ne_nil_iff]
  constructor
  · rintro ⟨⟨hne, hdigits, hvalue⟩, hconfig⟩
    refine ⟨_, _, List.takeWhile_append_dropWhile.symm, hne, fun c hc => ?_, hvalue, hconfig⟩
    have hdigit := List.all_eq_true.1 hdigits c hc
    exact isLetter_iff.2 ⟨List.mem_takeWhile_imp hc, by simpa using hdigit⟩
  · rintro ⟨word, rest, rfl, hne, hletters, hvalue, hconfig⟩
    have hcomma : ∀ c ∈ rest.head?, isWordChar c = false := by
      obtain ⟨d, after, rfl, -⟩ := hvalue
      rintro c ⟨⟩
      decide
    have hspan := span_append (fun c hc => (isLetter_iff.1 (hletters c hc)).1) hcomma
    rw [hspan.1, hspan.2]
    refine ⟨⟨hne, ?_, hvalue⟩, hconfig⟩
    rw [List.all_eq_true]
    intro c hc
    rw [(isLetter_iff.1 (hletters c hc)).2]
    rfl

theorem WordAt.takeWhile_isDigit (h : WordAt cs p word rest) :
    (cs.drop p).takeWhile Char.isDigit = [] := by
  rw [h.here]
  cases word with
  | nil => exact absurd rfl h.ne_nil
  | cons c word =>
      have hc := (isLetter_iff.1 (h.letters c List.mem_cons_self)).2
      simp [hc]

theorem WordAt.endsInWord_eq_false (h : WordAt cs p word rest) :
    endsInWord (cs.take p) = false := by
  rw [endsInWord, Option.any_eq_false]
  intro c hc
  simpa using h.apart c hc

theorem matchAt_iff_here? :
    MatchAt cs p config ↔ here? (endsInWord (cs.take p)) (cs.drop p) = some config := by
  constructor
  · intro h
    cases h with
    | word hword hrows =>
        have hconfig := atWord?_eq_some_iff.2
          ⟨_, _, hword.here, hword.ne_nil, hword.letters, hword.value, rfl⟩
        rw [here?, if_neg (not_not_intro hword.takeWhile_isDigit), hword.endsInWord_eq_false,
          if_neg Bool.false_ne_true, hconfig, hrows.values_eq]
    | digits hdigits hrows =>
        have hspan := span_append hdigits.digits hdigits.maximal
        rw [here?, hdigits.atDigits_eq hrows, if_pos]
        rw [hdigits.here, hspan.1]
        exact hdigits.ne_nil
  · intro h
    rw [here?] at h
    split at h
    · next hdigits =>
      obtain ⟨rows, hrows, -⟩ := exists_longestGroups ((cs.drop p).dropWhile Char.isDigit)
      have hat := digitsAt_takeWhile hdigits
      rw [hat.atDigits_eq hrows, Option.some.injEq] at h
      exact h ▸ .digits hat hrows
    · split at h
      · cases h
      · next hword =>
        obtain ⟨word, rest, hhere, hne, hletters, hvalue, rfl⟩ := atWord?_eq_some_iff.1 h
        obtain ⟨rows, hrows, hvalues⟩ := exists_longestGroups rest
        rw [hvalues]
        refine .word ⟨hhere, hne, hletters, fun c hc => ?_, hvalue⟩ hrows
        rw [Bool.not_eq_true, endsInWord, Option.any_eq_false] at hword
        simpa using hword c hc

theorem exists_digit_iff_takeWhile :
    (∃ c, cs[p]? = some c ∧ c.isDigit = true) ↔ (cs.drop p).takeWhile Char.isDigit ≠ [] := by
  rw [← List.head?_drop, takeWhile_isDigit_ne_nil_iff]
  simp only [List.head?_eq_some_iff]
  constructor
  · rintro ⟨c, ⟨after, hcs⟩, hc⟩
    exact ⟨c, after, hcs, hc⟩
  · rintro ⟨c, after, hcs, hc⟩
    exact ⟨c, ⟨after, hcs⟩, hc⟩

theorem matches_iff : Matches cs p ↔ ∃ config, MatchAt cs p config := by
  constructor
  · rintro (⟨word, rest, hword⟩ | hdigit)
    · obtain ⟨rows, hrows, -⟩ := exists_longestGroups rest
      exact ⟨_, .word hword hrows⟩
    · obtain ⟨rows, hrows, -⟩ := exists_longestGroups ((cs.drop p).dropWhile Char.isDigit)
      exact ⟨_, .digits (digitsAt_takeWhile (exists_digit_iff_takeWhile.1 hdigit)) hrows⟩
  · rintro ⟨config, ⟨hword, -⟩ | ⟨hdigits, -⟩⟩
    · exact Or.inl ⟨_, _, hword⟩
    · refine Or.inr (exists_digit_iff_takeWhile.2 ?_)
      rw [hdigits.here, (span_append hdigits.digits hdigits.maximal).1]
      exact hdigits.ne_nil

theorem here?_eq_none_iff :
    here? (endsInWord (cs.take p)) (cs.drop p) = none ↔ ¬ Matches cs p := by
  rw [matches_iff, Option.eq_none_iff_forall_ne_some, not_exists]
  simp only [ne_eq, ← matchAt_iff_here?]

end Place

theorem exists_matches_iff {cs : List Char} :
    (∃ p, Matches cs p) ↔ ∃ c ∈ cs, c.isDigit = true := by
  constructor
  · rintro ⟨p, ⟨word, rest, hword⟩ | ⟨c, hc, hdigit⟩⟩
    · obtain ⟨d, after, rfl, hd⟩ := hword.value
      refine ⟨d, List.mem_of_mem_drop (i := p) ?_, hd⟩
      simp [hword.here]
    · exact ⟨c, List.mem_of_getElem? hc, hdigit⟩
  · rintro ⟨c, hc, hdigit⟩
    obtain ⟨p, hp⟩ := List.getElem?_of_mem hc
    exact ⟨p, Or.inr ⟨c, hp, hdigit⟩⟩

/-! ## The scan -/

theorem exists_first_iff {found occurs : Nat → Prop} :
    (∃ n, found n ∧ ∀ m < n, ¬ occurs m) ↔
      found 0 ∨ ¬ occurs 0 ∧ ∃ n, found (n + 1) ∧ ∀ m < n, ¬ occurs (m + 1) := by
  constructor
  · rintro ⟨n, hn, hfirst⟩
    cases n with
    | zero => exact Or.inl hn
    | succ n =>
        exact Or.inr ⟨hfirst 0 n.succ_pos, n, hn, fun m hm => hfirst (m + 1) (Nat.succ_lt_succ hm)⟩
  · rintro (h | ⟨hfree, n, hn, hfirst⟩)
    · exact ⟨0, h, fun m hm => absurd hm m.not_lt_zero⟩
    · refine ⟨n + 1, hn, fun m hm => ?_⟩
      cases m with
      | zero => exact hfree
      | succ m => exact hfirst m (Nat.lt_of_succ_lt_succ hm)

theorem find?_eq_some_iff (before cs : List Char) (config : Configuration) :
    find? (endsInWord before) cs = some config ↔
      ∃ n, MatchAt (before ++ cs) (before.length + n) config
        ∧ ∀ m < n, ¬ Matches (before ++ cs) (before.length + m) := by
  induction cs generalizing before with
  | nil => simp [find?, matchAt_iff_here?, here?, atWord?]
  | cons c cs ih =>
      -- the rest of the scan is the scan of `cs` after one more character
      have hnext := ih (before ++ [c])
      have hplace : ∀ n, (before ++ [c]).length + n = before.length + (n + 1) := by
        intro n
        rw [List.length_append, List.length_singleton, Nat.add_assoc, Nat.add_comm 1 n]
      simp only [endsInWord_concat, List.append_assoc, List.singleton_append, hplace] at hnext
      rw [exists_first_iff, Nat.add_zero, matchAt_iff_here?, ← here?_eq_none_iff, List.take_left,
        List.drop_left, find?_cons, Option.or_eq_some_iff, hnext]

theorem ofLine_eq_ok_iff_matchAt {line : Line} {config : Configuration} :
    ofLine line = .ok config ↔
      ∃ p, MatchAt line.text.toList p config ∧ ∀ q < p, ¬ Matches line.text.toList q := by
  have h := find?_eq_some_iff [] line.text.toList config
  simp only [List.nil_append, List.length_nil, Nat.zero_add] at h
  exact ofLine_eq_ok_iff.trans h

theorem exists_ofLine_iff_matches {line : Line} :
    (∃ config, ofLine line = .ok config) ↔ ∃ p, Matches line.text.toList p := by
  classical
  simp only [ofLine_eq_ok_iff_matchAt]
  constructor
  · rintro ⟨config, p, hmatch, -⟩
    exact ⟨p, matches_iff.2 ⟨config, hmatch⟩⟩
  · intro h
    obtain ⟨config, hmatch⟩ := matches_iff.1 (Nat.find_spec h)
    exact ⟨config, Nat.find h, hmatch, fun q hq => Nat.find_min h hq⟩

theorem ofLine_eq_error_iff {line : Line} :
    ofLine line = .error (.configuration line.number line.text) ↔
      ∀ config, ofLine line ≠ .ok config := by
  unfold ofLine
  split <;> simp

/-- **The configuration of a line is the one at the first place of the line where one
can begin, and a line has none exactly when it has no digit.** -/
theorem ofLine_leftmost (line : Line) :
    (ofLine line = .error (.configuration line.number line.text) ↔
        ∀ c ∈ line.text.toList, c.isDigit = false)
      ∧ ((∃ config, ofLine line = .ok config) ↔ ∃ c ∈ line.text.toList, c.isDigit = true)
      ∧ ∀ config, ofLine line = .ok config ↔
          ∃ p, MatchAt line.text.toList p config ∧ ∀ q < p, ¬ Matches line.text.toList q := by
  have hok : (∃ config, ofLine line = .ok config) ↔ ∃ c ∈ line.text.toList, c.isDigit = true :=
    exists_ofLine_iff_matches.trans exists_matches_iff
  refine ⟨?_, hok, fun config => ofLine_eq_ok_iff_matchAt⟩
  rw [ofLine_eq_error_iff, ← not_exists, hok]
  simp

/-- Stray commas, a letter outside ASCII and a value that is none do not disturb the word
between them. -/
theorem ofLine_leftmost_stray_commas :
    ∃ p, MatchAt "Ö,,_Go,007,12,x3".toList p ⟨⟨"_go"⟩, .ofList [7, 12]⟩
      ∧ ∀ q < p, ¬ Matches "Ö,,_Go,007,12,x3".toList q :=
  ((ofLine_leftmost ⟨4, "Ö,,_Go,007,12,x3"⟩).2.2 ⟨⟨"_go"⟩, .ofList [7, 12]⟩).1 (by decide +kernel)

end Configuration

end CounterMachine
