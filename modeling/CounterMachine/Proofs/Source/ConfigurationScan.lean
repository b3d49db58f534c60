import CounterMachine.Source.Configuration
import Mathlib.Data.List.TakeWhile

/-!
# The scan for a configuration

The scan goes by positions and leaps over a word without a value after it.  Nothing
begins inside such a word, so the scan finds what a reader finds that looks at every
character in turn and keeps of the text before it only whether it ends in a word:
`find?` is this reader, on lists, and `search_eq` says that both are the same.

The load-bearing facts are `scan_eq`, the end of a run of characters in terms of
`List.takeWhile`, and `find?_append_of_word`, which passes over the rest of a word.
-/

namespace CounterMachine

namespace Configuration

open Text

/-! ## The reader of lists -/

def values : List Char → List Nat
  | [] => []
  | c :: cs =>
    if c = ',' ∧ cs.takeWhile Char.isDigit ≠ [] then
      numeral (cs.takeWhile Char.isDigit) :: values (cs.dropWhile Char.isDigit)
    else []
termination_by cs => cs.length
decreasing_by
  exact Nat.lt_succ_of_le (List.dropWhile_sublist _).length_le

def atDigits (cs : List Char) : Configuration :=
  ⟨.ofChars (cs.takeWhile Char.isDigit), .ofList (values (cs.dropWhile Char.isDigit))⟩

def atWord? (cs : List Char) : Option Configuration :=
  let word := cs.takeWhile isWordChar
  let vs := values (cs.dropWhile isWordChar)
  if word ≠ [] ∧ word.all (!·.isDigit) ∧ vs ≠ [] then some ⟨.ofChars word, .ofList vs⟩ else none

/-- The leftmost configuration in a text. Words are looked for only where
`inWord` is false, which is where the character before is no part of one. -/
def find? (inWord : Bool) : List Char → Option Configuration
  | [] => none
  | c :: cs =>
    if c.isDigit then some (atDigits (c :: cs))
    else
      match (if inWord then none else atWord? (c :: cs)) with
      | some config => some config
      | none => find? (isWordChar c) cs

/-! ## Positions and suffixes -/

section Positions

variable {chars : Array Char} {i : Nat}

theorem drop_eq_cons (h : i < chars.size) :
    chars.toList.drop i = chars[i] :: chars.toList.drop (i + 1) := by
  rw [List.drop_eq_getElem_cons (by rwa [Array.length_toList]), Array.getElem_toList]

theorem drop_eq_nil (h : ¬ i < chars.size) : chars.toList.drop i = [] :=
  List.drop_eq_nil_of_le (by rw [Array.length_toList]; omega)

theorem scan_eq (chars : Array Char) (pred : Char → Bool) (i : Nat) :
    scan chars pred i = i + ((chars.toList.drop i).takeWhile pred).length := by
  fun_induction scan chars pred i with
  | case1 i h hc ih =>
      rw [ih, drop_eq_cons h, List.takeWhile_cons_of_pos hc, List.length_cons]
      omega
  | case2 i h hc => rw [drop_eq_cons h, List.takeWhile_cons_of_neg hc, List.length_nil, Nat.add_zero]
  | case3 i h => rw [drop_eq_nil h, List.takeWhile_nil, List.length_nil, Nat.add_zero]

theorem extract_scan (chars : Array Char) (pred : Char → Bool) (i : Nat) :
    (chars.extract i (scan chars pred i)).toList = (chars.toList.drop i).takeWhile pred := by
  rw [Array.toList_extract, List.extract_eq_take_drop, scan_eq, Nat.add_sub_cancel_left]
  exact (List.prefix_iff_eq_take.1 (List.takeWhile_prefix pred)).symm

theorem drop_scan (chars : Array Char) (pred : Char → Bool) (i : Nat) :
    chars.toList.drop (scan chars pred i) = (chars.toList.drop i).dropWhile pred := by
  have hsplit := List.takeWhile_append_dropWhile (p := pred) (l := chars.toList.drop i)
  rw [scan_eq, ← List.drop_drop]
  calc
    (chars.toList.drop i).drop ((chars.toList.drop i).takeWhile pred).length
        = ((chars.toList.drop i).takeWhile pred ++ (chars.toList.drop i).dropWhile pred).drop
            ((chars.toList.drop i).takeWhile pred).length := by rw [hsplit]
    _ = (chars.toList.drop i).dropWhile pred := List.drop_left

theorem valuesFrom_eq (chars : Array Char) (i : Nat) :
    valuesFrom chars i = values (chars.toList.drop i) := by
  fun_induction valuesFrom chars i with
  | case1 i h hgroup stop ih =>
      have hrow : (chars.toList.drop (i + 1)).takeWhile Char.isDigit ≠ [] := by
        rw [drop_eq_cons h, List.takeWhile_cons_of_pos hgroup.2]
        exact List.cons_ne_nil _ _
      rw [ih, drop_eq_cons (Nat.lt_of_succ_lt h), values, if_pos ⟨hgroup.1, hrow⟩, extract_scan,
        drop_scan]
  | case2 i h hgroup =>
      have hnone : ¬ (chars[i] = ',' ∧ (chars.toList.drop (i + 1)).takeWhile Char.isDigit ≠ []) := by
        rintro ⟨hcomma, hrow⟩
        rw [drop_eq_cons h] at hrow
        exact hgroup ⟨hcomma, Decidable.by_contra fun hc =>
          hrow (List.takeWhile_cons_of_neg hc)⟩
      rw [drop_eq_cons (Nat.lt_of_succ_lt h), values, if_neg hnone]
  | case3 i h =>
      by_cases hi : i < chars.size
      · rw [drop_eq_cons hi, drop_eq_nil h, values, if_neg (by simp)]
      · rw [drop_eq_nil hi, values]

end Positions

/-! ## The leap over a word -/

theorem find?_append_of_word {word : List Char} (h : ∀ c ∈ word, isWordChar c = true)
    (hd : ∀ c ∈ word, c.isDigit = false) (rest : List Char) :
    find? true (word ++ rest) = find? true rest := by
  induction word with
  | nil => rfl
  | cons c word ih =>
      obtain ⟨hc, hword⟩ := List.forall_mem_cons.1 h
      obtain ⟨hdigit, hdigits⟩ := List.forall_mem_cons.1 hd
      rw [List.cons_append, find?, if_neg (by rw [hdigit]; exact Bool.false_ne_true), hc]
      exact ih hword hdigits

def endsInWord (before : List Char) : Bool := before.getLast?.any isWordChar

theorem endsInWord_concat (before : List Char) (c : Char) :
    endsInWord (before ++ [c]) = isWordChar c := by
  simp [endsInWord]

theorem endsInWord_take_succ {chars : Array Char} {i : Nat} (h : i < chars.size) :
    endsInWord (chars.toList.take (i + 1)) = isWordChar chars[i] := by
  rw [List.take_succ_eq_append_getElem (by rwa [Array.length_toList]), endsInWord_concat,
    Array.getElem_toList]

theorem find?_of_not_isDigit {inWord : Bool} {c : Char} {cs : List Char} (hc : c.isDigit = false)
    (hword : inWord = true ∨ atWord? (c :: cs) = none) :
    find? inWord (c :: cs) = find? (isWordChar c) cs := by
  rw [find?, if_neg (by rw [hc]; exact Bool.false_ne_true)]
  rcases hword with rfl | hnone
  · rfl
  · rw [hnone, ite_self]

theorem endsInWord_take {chars : Array Char} {i : Nat} (h : i - 1 < chars.size) :
    endsInWord (chars.toList.take i) = (decide (0 < i) && isWordChar chars[i - 1]) := by
  cases i with
  | zero => rfl
  | succ i => exact endsInWord_take_succ h

theorem endsInWord_append {before word : List Char} (hne : word ≠ [])
    (h : ∀ c ∈ word, isWordChar c = true) : endsInWord (before ++ word) = true := by
  rw [endsInWord, List.getLast?_append, List.getLast?_eq_some_getLast hne, Option.some_or]
  exact h _ (List.getLast_mem hne)

theorem atWord?_drop (chars : Array Char) (i : Nat) :
    atWord? (chars.toList.drop i) =
      let wordEnd := scan chars isWordChar i
      let word := (chars.extract i wordEnd).toList
      if word ≠ [] ∧ word.all (!·.isDigit) ∧ valuesFrom chars wordEnd ≠ [] then
        some ⟨.ofChars word, .ofList (valuesFrom chars wordEnd)⟩
      else none := by
  simp only [atWord?, extract_scan, valuesFrom_eq, drop_scan]

theorem not_skipped {word before : Bool} (h : ¬ (!word || before) = true) :
    word = true ∧ before = false := by
  cases word <;> cases before <;> simp_all

theorem endsInWord_take_scan {chars : Array Char} {i : Nat} (h : i < chars.size)
    (hc : isWordChar chars[i] = true) :
    endsInWord (chars.toList.take (scan chars isWordChar i)) = true := by
  have hword := (List.prefix_iff_eq_take.1
    (List.takeWhile_prefix (l := chars.toList.drop i) isWordChar)).symm
  rw [scan_eq, List.take_add, hword]
  refine endsInWord_append ?_ fun c hc => List.mem_takeWhile_imp hc
  rw [drop_eq_cons h, List.takeWhile_cons_of_pos hc]
  exact List.cons_ne_nil _ _

theorem find?_drop_scan {chars : Array Char} {i : Nat} (h : i < chars.size)
    (hc : isWordChar chars[i] = true)
    (hd : ∀ c ∈ (chars.extract i (scan chars isWordChar i)).toList, c.isDigit = false) :
    find? true (chars.toList.drop (i + 1))
      = find? true (chars.toList.drop (scan chars isWordChar i)) := by
  rw [extract_scan, drop_eq_cons h, List.takeWhile_cons_of_pos hc, List.forall_mem_cons] at hd
  have hskip := find?_append_of_word (fun c hmem => List.mem_takeWhile_imp hmem) hd.2
    ((chars.toList.drop (i + 1)).dropWhile isWordChar)
  rw [List.takeWhile_append_dropWhile] at hskip
  rw [hskip, drop_scan, drop_eq_cons h, List.dropWhile_cons_of_pos hc]

/-- The scan from a position finds what the reader of the rest of the text finds. -/
theorem search_eq (chars : Array Char) (i : Nat) :
    search chars i = find? (endsInWord (chars.toList.take i)) (chars.toList.drop i) := by
  fun_induction search chars i with
  | case1 i h hc stop =>
      rw [drop_eq_cons h, find?, if_pos hc, ← drop_eq_cons h, atDigits, extract_scan,
        valuesFrom_eq, drop_scan]
  | case2 i h hc hskip ih =>
      rw [ih, endsInWord_take (Nat.sub_lt_of_lt h), endsInWord_take_succ h, drop_eq_cons h]
      refine (find?_of_not_isDigit (Bool.eq_false_iff.2 hc) ?_).symm
      rw [Bool.or_eq_true, Bool.not_eq_true'] at hskip
      rcases hskip with hother | hinside
      · exact Or.inr (by simp [atWord?, hother])
      · exact Or.inl hinside
  | case3 i h hc hskip wordEnd word hdigits ih =>
      have hnone : atWord? (chars.toList.drop i) = none := by
        rw [atWord?_drop]
        refine if_neg fun hword => ?_
        obtain ⟨c, hmem, hdigit⟩ := List.any_eq_true.1 hdigits
        have hletter := List.all_eq_true.1 hword.2.1 c hmem
        rw [hdigit] at hletter
        cases hletter
      rw [drop_eq_cons h] at hnone ⊢
      rw [ih, endsInWord_take_succ h, find?_of_not_isDigit (Bool.eq_false_iff.2 hc) (Or.inr hnone)]
  | case4 i h hc hskip wordEnd word hdigits vs hvs =>
      obtain ⟨hletter, hapart⟩ := not_skipped hskip
      have hfound : atWord? (chars.toList.drop i) = some ⟨.ofChars word, .ofList vs⟩ := by
        rw [atWord?_drop]
        refine if_pos ⟨?_, ?_, hvs⟩
        · rw [extract_scan, drop_eq_cons h, List.takeWhile_cons_of_pos hletter]
          exact List.cons_ne_nil _ _
        · simpa [word] using hdigits
      rw [drop_eq_cons h] at hfound ⊢
      rw [endsInWord_take (Nat.sub_lt_of_lt h), hapart, find?, if_neg hc,
        if_neg Bool.false_ne_true, hfound]
  | case5 i h hc hskip wordEnd word hdigits vs hvs ih =>
      have hnone : atWord? (chars.toList.drop i) = none := by
        rw [atWord?_drop]
        exact if_neg fun hword => hvs hword.2.2
      obtain ⟨hletter, -⟩ := not_skipped hskip
      have hnodigit : ∀ c ∈ (chars.extract i (scan chars isWordChar i)).toList,
          c.isDigit = false := fun c hmem =>
        Bool.eq_false_iff.2 fun hdigit => hdigits (List.any_eq_true.2 ⟨c, hmem, hdigit⟩)
      rw [ih, endsInWord_take_scan h hletter, ← find?_drop_scan h hletter hnodigit]
      rw [drop_eq_cons h] at hnone ⊢
      rw [find?_of_not_isDigit (Bool.eq_false_iff.2 hc) (Or.inr hnone), hletter]
  | case6 i h => rw [drop_eq_nil h, find?]

theorem ofLine_eq_ok_iff {line : Line} {config : Configuration} :
    ofLine line = .ok config ↔ find? false line.text.toList = some config := by
  have hsearch : search line.text.toList.toArray 0 = find? false line.text.toList :=
    search_eq line.text.toList.toArray 0
  unfold ofLine
  rw [hsearch]
  split <;> simp_all

end Configuration

end CounterMachine
