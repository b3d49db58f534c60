import CounterMachine.Proofs.Text.NormalForm
import CounterMachine.Source.Load
import Mathlib.Control.Monad.Basic

/-!
# What loading sees of a text

Loading sees the normalized lines of a text and the numbers of those that say
something.  Two facts carry this:

* giving the lines other numbers changes the numbers in an error and nothing else,
  `Setup.ofLines_renumber`;
* normalizing each line is normalizing the text around its line feeds,
  `map_normalizeChars_pieces`, and a line that is skipped only moves the lines after
  it, `significantFrom_insert`.

Main statement: texts whose lines are alike after normalizing are loaded alike, errors
included, and a line that says nothing may stand anywhere, `load_normalized_lines`.
-/

namespace CounterMachine

open Text

/-! ## Other numbers for the lines -/

/-- The line with another number. -/
def Line.renumber (f : Nat → Nat) (line : Line) : Line := ⟨f line.number, line.text⟩

def LoadError.renumber (f : Nat → Nat) : LoadError → LoadError
  | unreadable path failure => unreadable path failure
  | noConfiguration => noConfiguration
  | configuration line text => configuration (f line) text
  | instruction line text => instruction (f line) text
  | duplicateLabel line label first => duplicateLabel (f line) label (f first)
  | operation line text => operation (f line) text
  | registerRange line digits => registerRange (f line) digits
  | unknownOperation line name => unknownOperation (f line) name
  | arity line op found => arity (f line) op found

theorem Configuration.ofLine_renumber (f : Nat → Nat) (line : Line) :
    ofLine (line.renumber f) = (ofLine line).mapError (.renumber f) := by
  unfold ofLine
  simp only [Line.renumber]
  split
  · rfl
  · rfl

namespace Definition

variable (f : Nat → Nat) (line : Line)

theorem splitLabel_renumber :
    splitLabel (line.renumber f) = (splitLabel line).mapError (.renumber f) := by
  unfold splitLabel
  simp only [Line.renumber]
  split
  · split <;> rfl
  · rfl

theorem parseOperation_renumber (operation : List Char) (targets : List (List Char)) :
    parseOperation (line.renumber f) operation targets
      = (parseOperation line operation targets).mapError (.renumber f) := by
  unfold parseOperation
  simp only [Line.renumber]
  split
  · rfl
  · split
    · rfl
    · split
      · rfl
      · split <;> rfl

theorem parseBody_renumber (body : List Char) :
    parseBody (line.renumber f) body = (parseBody line body).mapError (.renumber f) := by
  unfold parseBody
  split
  · rfl
  · split
    · rfl
    · exact parseOperation_renumber f line _ _

theorem parseLines_renumber {seen seen' : Std.ExtTreeMap Label Nat}
    (h : ∀ l : Label, seen'[l]? = seen[l]?.map f) (lines : List Line) :
    parseLines seen' (lines.map (.renumber f))
      = (parseLines seen lines).mapError (.renumber f) := by
  induction lines generalizing seen seen' with
  | nil => rfl
  | cons line lines ih =>
      rw [List.map_cons, parseLines, parseLines, splitLabel_renumber]
      cases splitLabel line with
      | error e => rfl
      | ok labelled =>
          obtain ⟨label, body⟩ := labelled
          simp only [Except.mapError, h]
          cases seen[label]? with
          | some first => rfl
          | none =>
              simp only [Option.map_none, parseBody_renumber]
              cases parseBody line body with
              | error e => rfl
              | ok i =>
                  have hinsert : ∀ l : Label, (seen'.insert label (f line.number))[l]?
                      = (seen.insert label line.number)[l]?.map f := by
                    intro l
                    rw [Std.ExtTreeMap.getElem?_insert, Std.ExtTreeMap.getElem?_insert, h]
                    split <;> rfl
                  have hrest := ih hinsert
                  simp only [Except.mapError, Line.renumber] at hrest ⊢
                  rw [hrest]
                  cases parseLines (seen.insert label line.number) lines <;> rfl

end Definition

theorem Program.ofLines_renumber (f : Nat → Nat) (lines : List Line) :
    ofLines (lines.map (.renumber f)) = (ofLines lines).mapError (.renumber f) := by
  have hempty : ∀ l : Label,
      (∅ : Std.ExtTreeMap Label Nat)[l]? = (∅ : Std.ExtTreeMap Label Nat)[l]?.map f := by
    simp
  rw [ofLines, ofLines, Definition.parseLines_renumber f hempty]
  cases Definition.parseLines ∅ lines <;> rfl

theorem Setup.ofLines_renumber (f : Nat → Nat) (lines : List Line) :
    ofLines (lines.map (.renumber f)) = (ofLines lines).mapError (.renumber f) := by
  cases lines with
  | nil => rfl
  | cons first rest =>
      rw [List.map_cons, ofLines, ofLines, Configuration.ofLine_renumber]
      cases Configuration.ofLine first with
      | error e => rfl
      | ok config =>
          simp only [Except.mapError]
          rw [Program.ofLines_renumber]
          cases Program.ofLines rest <;> rfl

/-! ## The lines of a text -/

namespace Text

def lineChar (c : Char) : List Char :=
  if c = '\n' then ['\n'] else normalizeChars [c]

theorem newline_not_mem_normalizeChars (cs : List Char) : '\n' ∉ normalizeChars cs :=
  fun h => absurd (isNormal_of_mem_normalizeChars h) (by decide)

theorem pieces_append_of_not_mem {sep : Char} {as bs p : List Char} {ps : List (List Char)}
    (h : sep ∉ as) (hb : pieces sep bs = p :: ps) : pieces sep (as ++ bs) = (as ++ p) :: ps := by
  induction as with
  | nil => exact hb
  | cons a as ih =>
      simp only [List.mem_cons, not_or] at h
      rw [List.cons_append, pieces_cons, if_neg (Ne.symm h.1), ih h.2]
      rfl

theorem map_normalizeChars_pieces (cs : List Char) :
    (pieces '\n' cs).map normalizeChars = pieces '\n' (cs.flatMap lineChar) := by
  induction cs with
  | nil => rfl
  | cons c cs ih =>
      rw [List.flatMap_cons, lineChar, pieces_cons]
      split
      · rw [List.map_cons, ih, List.singleton_append, pieces_cons, if_pos rfl]
        rfl
      · cases hp : pieces '\n' cs with
        | nil => exact absurd hp (pieces_ne_nil '\n' cs)
        | cons p ps =>
            rw [hp, List.map_cons] at ih
            rw [pieces_append_of_not_mem (newline_not_mem_normalizeChars [c]) ih.symm,
              List.map_cons, ← normalizeChars_append, List.singleton_append]

theorem lower_of_isBlank {c : Char} (h : isBlank c = true) : lower c = [c] := by
  have hapart : (caseRuns.all fun r => blankRanges.all fun b =>
      r.last.blt b.first || b.last.blt r.first) = true := by
    decide +kernel
  obtain ⟨b, hb, hcontains⟩ := List.any_eq_true.1 h
  have hc := CodeRange.contains_iff.1 hcontains
  have hdot : c ≠ '\u0130' := by
    rintro rfl
    exact absurd h (by decide)
  have hcode : lowerCode caseRuns c.toNat = c.toNat := by
    refine lowerCode_of_not_covers fun r hr hcovers => ?_
    have hrb := List.all_eq_true.1 (List.all_eq_true.1 hapart r hr) b hb
    rw [Bool.or_eq_true, Nat.blt_eq, Nat.blt_eq] at hrb
    have := hcovers.1
    have := hcovers.2.1
    omega
  rw [lower, if_neg hdot, hcode, Char.ofNat_toNat]

theorem isBlank_of_lower_eq {c d : Char} (h : lower c = lower d) (hc : isBlank c = true) :
    isBlank d = true := by
  by_contra hd
  have hmem : c ∈ lower d := by
    rw [← h, lower_of_isBlank hc]
    exact List.mem_singleton_self c
  have hn : IsNormal c := isNormal_of_mem_lower (Bool.eq_false_iff.2 hd) hmem
  rw [hn.1] at hc
  cases hc

theorem lineChar_of_isBlank {c : Char} (h : isBlank c = true) (hc : c ≠ '\n') :
    lineChar c = [] := by
  rw [lineChar, if_neg hc, normalizeChars_cons_of_isBlank h, normalizeChars_nil]

theorem lineChar_of_not_isBlank {c : Char} (h : isBlank c = false) : lineChar c = lower c := by
  have hc : c ≠ '\n' := by
    rintro rfl
    exact absurd h (by decide)
  rw [lineChar, if_neg hc]
  simp [normalizeChars, h]

theorem lineChar_eq_of_lower_eq {c d : Char} (h : lower c = lower d) :
    lineChar c = lineChar d := by
  by_cases hc : isBlank c = true
  · have hd := isBlank_of_lower_eq h hc
    rw [lower_of_isBlank hc, lower_of_isBlank hd, List.singleton_inj] at h
    rw [h]
  · have hd : ¬ isBlank d = true := mt (isBlank_of_lower_eq h.symm) hc
    rw [lineChar_of_not_isBlank (Bool.eq_false_iff.2 hc),
      lineChar_of_not_isBlank (Bool.eq_false_iff.2 hd), h]

end Text

/-! ## The lines that say something -/

/-- The lines of a text after normalizing. -/
def normalizedLines (source : String) : List (List Char) :=
  (pieces '\n' source.toList).map normalizeChars

def significantFrom (n : Nat) (texts : List (List Char)) : List Line :=
  ((texts.zipIdx n).map fun t => Line.mk t.2 (String.ofList t.1)).filter Line.isSignificant

theorem significantLines_eq (source : String) :
    significantLines source = significantFrom 1 (normalizedLines source) := by
  rw [significantFrom, normalizedLines, List.zipIdx_map, List.map_map]
  unfold significantLines numberedLines
  congr 2
  funext t
  simp [Line.ofRaw, Text.normalize]

theorem significantFrom_append (n : Nat) (before after : List (List Char)) :
    significantFrom n (before ++ after)
      = significantFrom n before ++ significantFrom (n + before.length) after := by
  unfold significantFrom
  rw [List.zipIdx_append, List.map_append, List.filter_append]

theorem significantFrom_cons_of_pos {n : Nat} {text : List Char}
    (h : (Line.mk n (String.ofList text)).isSignificant = true) (texts : List (List Char)) :
    significantFrom n (text :: texts)
      = ⟨n, String.ofList text⟩ :: significantFrom (n + 1) texts := by
  unfold significantFrom
  rw [List.zipIdx_cons, List.map_cons, List.filter_cons_of_pos h]

theorem significantFrom_cons_of_neg {n : Nat} {text : List Char}
    (h : ¬ (Line.mk n (String.ofList text)).isSignificant = true) (texts : List (List Char)) :
    significantFrom n (text :: texts) = significantFrom (n + 1) texts := by
  unfold significantFrom
  rw [List.zipIdx_cons, List.map_cons, List.filter_cons_of_neg h]

theorem significantFrom_of_blank {n : Nat} {texts : List (List Char)}
    (h : ∀ i : Nat, texts[i]?.getD [] = []) : significantFrom n texts = [] := by
  induction texts generalizing n with
  | nil => rfl
  | cons text texts ih =>
      obtain rfl : text = [] := h 0
      rw [significantFrom_cons_of_neg (by simp [Line.isSignificant])]
      exact ih fun i => h (i + 1)

theorem significantFrom_congr {n : Nat} {texts texts' : List (List Char)}
    (h : ∀ i : Nat, texts[i]?.getD [] = texts'[i]?.getD []) :
    significantFrom n texts = significantFrom n texts' := by
  induction texts generalizing n texts' with
  | nil => exact (significantFrom_of_blank fun i => (h i).symm).symm
  | cons text texts ih =>
      cases texts' with
      | nil => exact significantFrom_of_blank h
      | cons text' texts' =>
          obtain rfl : text = text' := h 0
          have hrest := ih (n := n + 1) fun i => h (i + 1)
          by_cases hs : (Line.mk n (String.ofList text)).isSignificant = true
          · rw [significantFrom_cons_of_pos hs, significantFrom_cons_of_pos hs, hrest]
          · rw [significantFrom_cons_of_neg hs, significantFrom_cons_of_neg hs, hrest]

theorem map_renumber_significantFrom {f : Nat → Nat} {n d : Nat} {texts : List (List Char)}
    (h : ∀ x, n ≤ x → x < n + texts.length → f x = x + d) :
    (significantFrom n texts).map (.renumber f) = significantFrom (n + d) texts := by
  induction texts generalizing n with
  | nil => rfl
  | cons text texts ih =>
      have hrest : (significantFrom (n + 1) texts).map (.renumber f)
          = significantFrom (n + d + 1) texts := by
        rw [Nat.add_right_comm n d 1]
        refine ih fun x hl hu => h x (by omega) ?_
        rw [List.length_cons]
        omega
      have hn : f n = n + d := h n (Nat.le_refl n) (by simp)
      by_cases hs : (Line.mk n (String.ofList text)).isSignificant = true
      · have hs' : (Line.mk (n + d) (String.ofList text)).isSignificant = true := hs
        rw [significantFrom_cons_of_pos hs, significantFrom_cons_of_pos hs', List.map_cons, hrest,
          Line.renumber, hn]
      · have hs' : ¬ (Line.mk (n + d) (String.ofList text)).isSignificant = true := hs
        rw [significantFrom_cons_of_neg hs, significantFrom_cons_of_neg hs', hrest]

/-! ## Lines put in -/

def movedDown (k n : Nat) : Nat := if k < n then n + 1 else n

theorem significantFrom_insert {k : Nat} {text : List Char}
    (h : (Line.mk 0 (String.ofList text)).isSignificant = false) (texts : List (List Char)) :
    significantFrom 1 (texts.take k ++ text :: texts.drop k)
      = (significantFrom 1 texts).map (.renumber (movedDown k)) := by
  have hbefore : (significantFrom 1 (texts.take k)).map (.renumber (movedDown k))
      = significantFrom 1 (texts.take k) := by
    refine map_renumber_significantFrom (d := 0) fun x hl hu => ?_
    rw [List.length_take] at hu
    rw [movedDown, if_neg (by omega), Nat.add_zero]
  have hafter : (significantFrom (1 + (texts.take k).length) (texts.drop k)).map
      (.renumber (movedDown k))
        = significantFrom (1 + (texts.take k).length + 1) (texts.drop k) := by
    refine map_renumber_significantFrom fun x hl hu => ?_
    rw [List.length_take] at hl
    rw [List.length_take, List.length_drop] at hu
    rw [movedDown, if_pos (by omega)]
  have hskipped : ¬ (Line.mk (1 + (texts.take k).length) (String.ofList text)).isSignificant
      = true := Bool.eq_false_iff.1 h
  calc
    significantFrom 1 (texts.take k ++ text :: texts.drop k)
        = significantFrom 1 (texts.take k)
          ++ significantFrom (1 + (texts.take k).length + 1) (texts.drop k) := by
          rw [significantFrom_append, significantFrom_cons_of_neg hskipped]
    _ = (significantFrom 1 (texts.take k ++ texts.drop k)).map (.renumber (movedDown k)) := by
          rw [significantFrom_append, List.map_append, hbefore, hafter]
    _ = (significantFrom 1 texts).map (.renumber (movedDown k)) := by
          rw [List.take_append_drop]

/-- The text with a line put in behind the first `k`. -/
def insertLine (k : Nat) (line source : String) : String :=
  let lines := pieces '\n' source.toList
  String.ofList (['\n'].intercalate (lines.take k ++ line.toList :: lines.drop k))

theorem normalizedLines_insertLine {line : String} (h : '\n' ∉ line.toList) (k : Nat)
    (source : String) :
    normalizedLines (insertLine k line source)
      = (normalizedLines source).take k
        ++ normalizeChars line.toList :: (normalizedLines source).drop k := by
  have hpieces : pieces '\n' (insertLine k line source).toList
      = (pieces '\n' source.toList).take k
        ++ line.toList :: (pieces '\n' source.toList).drop k := by
    refine pieces_eq_iff.2 ⟨by simp, fun p hp => ?_, by simp [insertLine]⟩
    rcases List.mem_append.1 hp with hp | hp
    · exact not_mem_of_mem_pieces (List.mem_of_mem_take hp)
    · rcases List.mem_cons.1 hp with rfl | hp
      · exact h
      · exact not_mem_of_mem_pieces (List.mem_of_mem_drop hp)
  rw [normalizedLines, hpieces, List.map_append, List.map_cons, List.map_take, List.map_drop,
    normalizedLines]

/-! ## Loading -/

/-- The normalized text of a line, counted from zero. What is beyond the last line is
blank. -/
def lineText (source : String) (i : Nat) : String :=
  ((numberedLines source)[i]?.map Line.text).getD ""

theorem toList_lineText (source : String) (i : Nat) :
    (lineText source i).toList = (normalizedLines source)[i]?.getD [] := by
  rw [lineText, numberedLines, normalizedLines, List.getElem?_map, List.getElem?_map,
    List.getElem?_zipIdx]
  cases (pieces '\n' source.toList)[i]? with
  | none => simp
  | some cs => simp [Line.ofRaw]

namespace Setup

theorem load_congr {s t : String} (h : ∀ i, lineText s i = lineText t i) : load s = load t := by
  have hlines : significantLines s = significantLines t := by
    rw [significantLines_eq, significantLines_eq]
    refine significantFrom_congr fun i => ?_
    rw [← toList_lineText, ← toList_lineText, h i]
  rw [load, load, hlines]

theorem load_insertLine {line : String} (hline : '\n' ∉ line.toList)
    (hskipped : Text.normalize line = "" ∨ (Text.normalize line).toList.head? = some '#') (k : Nat)
    (source : String) :
    load (insertLine k line source) = (load source).mapError (.renumber (movedDown k)) := by
  have hsays : (Line.mk 0 (String.ofList (normalizeChars line.toList))).isSignificant = false := by
    rw [← Text.normalize, Bool.eq_false_iff, Ne, Line.isSignificant_iff]
    rintro ⟨c, cs, htext, hc⟩
    rcases hskipped with hnil | hsharp
    · simp [hnil] at htext
    · rw [htext, List.head?_cons, Option.some.injEq] at hsharp
      exact hc hsharp
  rw [load, significantLines_eq, normalizedLines_insertLine hline, significantFrom_insert hsays,
    ofLines_renumber, ← significantLines_eq, load]

theorem load_eq_of_flatMap_lineChar {s t : String}
    (h : s.toList.flatMap lineChar = t.toList.flatMap lineChar) : load s = load t := by
  have hlines : normalizedLines s = normalizedLines t := by
    rw [normalizedLines, normalizedLines, map_normalizeChars_pieces, map_normalizeChars_pieces, h]
  rw [load, load, significantLines_eq, significantLines_eq, hlines]

/-- **Loading sees normalized lines only.**  Texts whose lines are alike are loaded
alike, as setups and as errors.  A line that is blank or begins with a number sign may be
put in anywhere: a setup stays as it is, and in an error the numbers of the lines after it
go up by one.  White space within lines and the case of letters make no difference. -/
theorem load_normalized_lines :
    (∀ s t : String, (∀ i, lineText s i = lineText t i) → load s = load t)
      ∧ (∀ (source line : String) (k : Nat), '\n' ∉ line.toList →
          (Text.normalize line = "" ∨ (Text.normalize line).toList.head? = some '#') →
          load (insertLine k line source) = (load source).mapError (.renumber (movedDown k)))
      ∧ (∀ (before after : String) (c : Char), isBlank c = true → c ≠ '\n' →
          load (before.push c ++ after) = load (before ++ after))
      ∧ ∀ (before after : String) (c d : Char), lower c = lower d →
          load (before.push c ++ after) = load (before.push d ++ after) := by
  refine ⟨fun s t h => load_congr h, fun source line k hline hskipped => ?_,
    fun before after c hc hfeed => ?_, fun before after c d hcd => ?_⟩
  · exact load_insertLine hline hskipped k source
  · apply load_eq_of_flatMap_lineChar
    simp [lineChar_of_isBlank hc hfeed]
  · apply load_eq_of_flatMap_lineChar
    simp [lineChar_eq_of_lower_eq hcd]

/-- Line ends with a carriage return and a line that is missing at the end, a comment
before a definition that repeats a label, and the Kelvin sign for a small letter. -/
theorem load_normalized_lines_comment :
    let source := "k, 1\nk: halt\nk: halt\n"
    let windows := "K ,1\r\nk : HALT\r\nk:halt\r"
    let duplicate (n first : Nat) : Except LoadError Setup :=
      .error (.duplicateLabel n ⟨"k"⟩ first)
    (∀ i, lineText source i = lineText windows i)
      ∧ load source = duplicate 3 2 ∧ load windows = duplicate 3 2
      ∧ insertLine 2 " # k" source = "k, 1\nk: halt\n # k\nk: halt\n"
      ∧ load (insertLine 2 " # k" source) = duplicate 4 2
      ∧ load ("k, 1".push '\r' ++ "\nk: halt") = load ("k, 1" ++ "\nk: halt")
      ∧ lower '\u212A' = lower 'k'
      ∧ load ("k, 1\n".push '\u212A' ++ ": halt") = load ("k, 1\n".push 'k' ++ ": halt") := by
  intro source windows duplicate
  obtain ⟨hcongr, hinsert, hblank, hlower⟩ := load_normalized_lines
  have hsource : numberedLines source
      = [⟨1, "k,1"⟩, ⟨2, "k:halt"⟩, ⟨3, "k:halt"⟩, ⟨4, ""⟩] := by
    decide +kernel
  have hwindows : numberedLines windows = [⟨1, "k,1"⟩, ⟨2, "k:halt"⟩, ⟨3, "k:halt"⟩] := by
    decide +kernel
  have hlines : ∀ i, lineText source i = lineText windows i := by
    intro i
    rw [lineText, lineText, hsource, hwindows]
    rcases i with _ | _ | _ | _ | i <;> rfl
  have hload : load source = duplicate 3 2 := by
    decide +kernel
  have hcomment : load (insertLine 2 " # k" source) = duplicate 4 2 := by
    rw [hinsert source " # k" 2 (by decide) (by decide +kernel), hload]
    rfl
  have hkelvin : lower '\u212A' = lower 'k' := by
    decide
  exact ⟨hlines, hload, (hcongr source windows hlines).symm.trans hload, by decide +kernel, hcomment,
    hblank "k, 1" "\nk: halt" '\r' (by decide) (by decide), hkelvin,
    hlower "k, 1\n" ": halt" '\u212A' 'k' hkelvin⟩

end Setup

end CounterMachine
