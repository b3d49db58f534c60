import CounterMachine.Proofs.Json.Literals
import Mathlib.Data.List.DropRight

/-!
# JSON values are read back

`read?_text` says that the text of any JSON value, in either layout, is read as the
value. The reader and the writer go through a value in the same order, so that the
proof is an induction on the reader's fuel: a value is read behind which any text
stands that does not go on with a number, and the rest of an array or object is read
behind the elements before. The fuel that is needed is the length of the text.
-/

namespace CounterMachine

namespace Json

/-! ## Space between the parts -/

theorem skipSpace_of_not_space {cs : List Char} (h : ∀ c ∈ cs.head?, isSpace c = false) :
    skipSpace cs = cs := by
  have hnone : ∀ c ∈ ([] : List Char), isSpace c = true := by simp
  exact (Text.span_append hnone h).2

theorem isSpace_of_mem_gap {layout : JsonLayout} {level : Nat} {c : Char}
    (h : c ∈ layout.gap level) : isSpace c = true := by
  cases layout with
  | compact => cases h
  | indented =>
      rcases List.mem_cons.1 h with rfl | h
      · rfl
      · rw [List.eq_of_mem_replicate h]
        rfl

theorem skipSpace_gap_append (layout : JsonLayout) (level : Nat) {cs : List Char}
    (h : ∀ c ∈ cs.head?, isSpace c = false) : skipSpace (layout.gap level ++ cs) = cs :=
  (Text.span_append (fun _ hc => isSpace_of_mem_gap hc) h).2

theorem skipSpace_cons {c : Char} (h : isSpace c = false) (cs : List Char) :
    skipSpace (c :: cs) = c :: cs :=
  skipSpace_of_not_space fun _ hc => by cases hc; exact h

theorem skipSpace_gap_cons (layout : JsonLayout) (level : Nat) {c : Char} (h : isSpace c = false)
    (cs : List Char) : skipSpace (layout.gap level ++ c :: cs) = c :: cs :=
  skipSpace_gap_append layout level fun _ hc => by cases hc; exact h

theorem skipSpace_skipSpace (cs : List Char) : skipSpace (skipSpace cs) = skipSpace cs :=
  List.dropWhile_idempotent _ _

theorem readValue_skipSpace (fuel : Nat) (cs : List Char) :
    readValue fuel (skipSpace cs) = readValue fuel cs := by
  cases fuel with
  | zero => rfl
  | succ fuel => rw [readValue, readValue, skipSpace_skipSpace]

theorem readElements_skipSpace (fuel : Nat) (done : List Json) (cs : List Char) :
    readElements fuel done (skipSpace cs) = readElements fuel done cs := by
  cases fuel with
  | zero => rfl
  | succ fuel => rw [readElements, readElements, readValue_skipSpace]

theorem readMembers_skipSpace (fuel : Nat) (done : List (Option String × Json)) (cs : List Char) :
    readMembers fuel done (skipSpace cs) = readMembers fuel done cs := by
  cases fuel with
  | zero => rfl
  | succ fuel => rw [readMembers, readMembers, skipSpace_skipSpace]

/-! ## The first character of a value -/

theorem exists_numberChars_eq (n : JsonNumber) :
    ∃ c cs, numberChars n = c :: cs ∧ (c = '-' ∨ c.isDigit = true) := by
  have hdigits : ∀ m, ∃ c cs, Nat.toDigits 10 m = c :: cs ∧ c.isDigit = true := by
    intro m
    obtain ⟨c, cs, hcs⟩ := List.exists_cons_of_ne_nil (Nat.toDigits_ne_nil (b := 10) (n := m))
    exact ⟨c, cs, hcs, Nat.isDigit_of_mem_toDigits (by decide) (by decide)
      (hcs ▸ List.mem_cons_self)⟩
  cases n with
  | natural n =>
      obtain ⟨c, cs, hcs, hc⟩ := hdigits n
      exact ⟨c, cs, hcs, Or.inr hc⟩
  | decimal negative digits e =>
      rw [numberChars_decimal]
      cases negative with
      | false =>
          obtain ⟨c, cs, hcs, hc⟩ := hdigits digits
          exact ⟨c, cs ++ exponentChars e, by simp [hcs], Or.inr hc⟩
      | true => exact ⟨_, _, rfl, Or.inl rfl⟩

theorem isSpace_eq_false_of_number {c : Char} (h : c = '-' ∨ c.isDigit = true) :
    isSpace c = false ∧ c ≠ ']' := by
  rcases h with rfl | h
  · decide
  · constructor
    · rw [Bool.eq_false_iff]
      intro hs
      simp only [isSpace, Bool.or_eq_true, beq_iff_eq] at hs
      rcases hs with ((rfl | rfl) | rfl) | rfl <;> cases h
    · rintro rfl
      cases h

theorem exists_chars_eq (layout : JsonLayout) (level : Nat) (j : Json) :
    ∃ c cs, chars layout level j = c :: cs ∧ isSpace c = false ∧ c ≠ ']' := by
  cases j with
  | null => exact ⟨_, _, rfl, by decide⟩
  | bool b => cases b <;> exact ⟨_, _, rfl, by decide⟩
  | number n =>
      obtain ⟨c, cs, hcs, hc⟩ := exists_numberChars_eq n
      exact ⟨c, cs, hcs, isSpace_eq_false_of_number hc⟩
  | string s =>
      obtain ⟨body, hbody, -⟩ := readString_stringChars s
      exact ⟨_, _, hbody, by decide⟩
  | array xs => cases xs <;> exact ⟨_, _, rfl, by decide⟩
  | object ms => cases ms <;> exact ⟨_, _, rfl, by decide⟩

theorem readValue_of_number {c : Char} (h : c = '-' ∨ c.isDigit = true) (fuel : Nat)
    (cs : List Char) :
    readValue (fuel + 1) (c :: cs)
      = (readNumber (c :: cs)).map fun (n, rest) => (number n, rest) := by
  have hskip := skipSpace_cons (isSpace_eq_false_of_number h).1 cs
  rw [readValue, hskip]
  -- the other characters that a value may begin with begin no number
  split
  case h_7 => rfl
  all_goals
    next heq =>
      obtain ⟨rfl, -⟩ := List.cons.inj heq
      exact absurd h (by decide)

/-! ## Arrays and objects -/

theorem not_isSpace_head (layout : JsonLayout) (level : Nat) (j : Json) (rest : List Char) :
    ∀ c ∈ (chars layout level j ++ rest).head?, isSpace c = false := by
  obtain ⟨c, cs, hcs, hc, -⟩ := exists_chars_eq layout level j
  intro d hd
  rw [hcs] at hd
  cases hd
  exact hc

variable {layout : JsonLayout}

theorem endsNumber_gap_append (level : Nat) {c : Char}
    (h : c.isDigit = false ∧ c ≠ '.' ∧ c ≠ 'e' ∧ c ≠ 'E') (rest : List Char) :
    EndsNumber (layout.gap level ++ c :: rest) := by
  cases layout with
  | compact => exact endsNumber_cons h rest
  | indented => exact endsNumber_cons (by decide) _

theorem endsNumber_elementsChars (level : Nat) (xs : List Json) (rest : List Char) :
    EndsNumber (elementsChars layout level xs ++ rest) := by
  cases xs with
  | nil =>
      rw [elementsChars, List.append_assoc]
      exact endsNumber_gap_append level (by decide) rest
  | cons x xs => exact endsNumber_cons (by decide) _

theorem endsNumber_membersChars (level : Nat) (ms : List (Option String × Json))
    (rest : List Char) : EndsNumber (membersChars layout level ms ++ rest) := by
  cases ms with
  | nil =>
      rw [membersChars, List.append_assoc]
      exact endsNumber_gap_append level (by decide) rest
  | cons m ms => exact endsNumber_cons (by decide) _

/-- What is read with some fuel: each value, and what is left of an array or an object
from one of its parts on. -/
structure Reads (layout : JsonLayout) (fuel : Nat) : Prop where
  value : ∀ (level : Nat) (j : Json) (rest : List Char),
    (chars layout level j).length < fuel → EndsNumber rest →
      readValue fuel (chars layout level j ++ rest) = some (j, rest)
  elements : ∀ (level : Nat) (done : List Json) (x : Json) (xs : List Json) (rest : List Char),
    (chars layout (level + 1) x).length + (elementsChars layout level xs).length < fuel →
      readElements fuel done
          (chars layout (level + 1) x ++ (elementsChars layout level xs ++ rest))
        = some (array (done.reverse ++ x :: xs), rest)
  members : ∀ (level : Nat) (done : List (Option String × Json)) (key : Option String) (x : Json)
    (ms : List (Option String × Json)) (rest : List Char),
    (stringChars key).length + (chars layout (level + 1) x).length
        + (membersChars layout level ms).length < fuel →
      readMembers fuel done (stringChars key ++ (layout.colon
          ++ (chars layout (level + 1) x ++ (membersChars layout level ms ++ rest))))
        = some (object (done.reverse ++ (key, x) :: ms), rest)

theorem Reads.elements_succ {fuel : Nat} (h : Reads layout fuel) (level : Nat)
    (done : List Json) (x : Json) (xs : List Json) (rest : List Char)
    (hlen : (chars layout (level + 1) x).length + (elementsChars layout level xs).length
      < fuel + 1) :
    readElements (fuel + 1) done
        (chars layout (level + 1) x ++ (elementsChars layout level xs ++ rest))
      = some (array (done.reverse ++ x :: xs), rest) := by
  have hpos : 0 < (elementsChars layout level xs).length := by
    cases xs <;> simp [elementsChars]
  rw [readElements, h.value (level + 1) x _ (by omega) (endsNumber_elementsChars level xs rest)]
  cases xs with
  | nil =>
      have hskip : skipSpace (elementsChars layout level [] ++ rest) = ']' :: rest := by
        rw [elementsChars, List.append_assoc]
        exact skipSpace_gap_cons layout level (by decide) rest
      simp only [hskip, List.reverse_cons]
  | cons y ys =>
      have hskip : skipSpace (elementsChars layout level (y :: ys) ++ rest)
          = ',' :: (layout.gap (level + 1)
            ++ (chars layout (level + 1) y ++ (elementsChars layout level ys ++ rest))) := by
        simp only [elementsChars, List.cons_append, List.append_assoc]
        exact skipSpace_cons (by decide) _
      have hgap : skipSpace (layout.gap (level + 1)
            ++ (chars layout (level + 1) y ++ (elementsChars layout level ys ++ rest)))
          = chars layout (level + 1) y ++ (elementsChars layout level ys ++ rest) :=
        skipSpace_gap_append layout (level + 1) (not_isSpace_head layout (level + 1) y _)
      simp only [elementsChars, List.length_cons, List.length_append] at hlen
      simp only [hskip]
      rw [← readElements_skipSpace, hgap, h.elements level (x :: done) y ys rest (by omega)]
      simp

theorem exists_colon_append (layout : JsonLayout) (level : Nat) (j : Json) (rest : List Char) :
    ∃ cs, layout.colon ++ (chars layout level j ++ rest) = ':' :: cs
      ∧ skipSpace cs = chars layout level j ++ rest := by
  have hhead := not_isSpace_head layout level j rest
  cases layout with
  | compact => exact ⟨_, rfl, skipSpace_of_not_space hhead⟩
  | indented =>
      have hspace : ∀ c ∈ [' '], isSpace c = true := by
        intro c hc
        rw [List.mem_singleton.1 hc]
        rfl
      exact ⟨_, rfl, (Text.span_append hspace hhead).2⟩

theorem Reads.members_succ {fuel : Nat} (h : Reads layout fuel) (level : Nat)
    (done : List (Option String × Json)) (key : Option String) (x : Json)
    (ms : List (Option String × Json)) (rest : List Char)
    (hlen : (stringChars key).length + (chars layout (level + 1) x).length
      + (membersChars layout level ms).length < fuel + 1) :
    readMembers (fuel + 1) done (stringChars key ++ (layout.colon
        ++ (chars layout (level + 1) x ++ (membersChars layout level ms ++ rest))))
      = some (object (done.reverse ++ (key, x) :: ms), rest) := by
  have hpos : 0 < (membersChars layout level ms).length := by
    cases ms <;> simp [membersChars]
  obtain ⟨body, hkey, hbody⟩ := readString_stringChars key
  obtain ⟨cs, hcolon, hcs⟩ :=
    exists_colon_append layout (level + 1) x (membersChars layout level ms ++ rest)
  have hquote : skipSpace ('"' :: (body ++ ':' :: cs)) = '"' :: (body ++ ':' :: cs) :=
    skipSpace_cons (by decide) _
  have hafter : skipSpace (':' :: cs) = ':' :: cs := skipSpace_cons (by decide) cs
  have hvalue : readValue fuel cs = some (x, membersChars layout level ms ++ rest) := by
    rw [← readValue_skipSpace, hcs]
    exact h.value (level + 1) x _ (by omega) (endsNumber_membersChars level ms rest)
  rw [readMembers, hcolon, hkey, List.cons_append, hquote]
  simp only [hbody, hafter, hvalue]
  cases ms with
  | nil =>
      have hskip : skipSpace (membersChars layout level [] ++ rest) = '\x7d' :: rest := by
        rw [membersChars, List.append_assoc]
        exact skipSpace_gap_cons layout level (by decide) rest
      simp only [hskip, List.reverse_cons]
  | cons m ms =>
      obtain ⟨key', y⟩ := m
      have hskip : skipSpace (membersChars layout level ((key', y) :: ms) ++ rest)
          = ',' :: (layout.gap (level + 1) ++ (stringChars key' ++ (layout.colon
            ++ (chars layout (level + 1) y ++ (membersChars layout level ms ++ rest))))) := by
        simp only [membersChars, List.cons_append, List.append_assoc]
        exact skipSpace_cons (by decide) _
      have hgap : skipSpace (layout.gap (level + 1) ++ (stringChars key' ++ (layout.colon
            ++ (chars layout (level + 1) y ++ (membersChars layout level ms ++ rest)))))
          = stringChars key' ++ (layout.colon
            ++ (chars layout (level + 1) y ++ (membersChars layout level ms ++ rest))) := by
        obtain ⟨body', hkey', -⟩ := readString_stringChars key'
        rw [hkey']
        exact skipSpace_gap_cons layout (level + 1) (by decide) _
      simp only [membersChars, List.length_cons, List.length_append] at hlen
      simp only [hskip]
      rw [← readMembers_skipSpace, hgap,
        h.members level ((key, x) :: done) key' y ms rest (by omega)]
      simp

theorem Reads.value_succ {fuel : Nat} (h : Reads layout fuel) (level : Nat) (j : Json)
    (rest : List Char) (hlen : (chars layout level j).length < fuel + 1)
    (hrest : EndsNumber rest) :
    readValue (fuel + 1) (chars layout level j ++ rest) = some (j, rest) := by
  have hskip : skipSpace (chars layout level j ++ rest) = chars layout level j ++ rest :=
    skipSpace_of_not_space (not_isSpace_head layout level j rest)
  cases j with
  | null => rfl
  | bool b => cases b <;> rfl
  | number n =>
      obtain ⟨c, cs, hcs, hc⟩ := exists_numberChars_eq n
      have hread := readNumber_numberChars n hrest
      rw [hcs, List.cons_append] at hread
      rw [chars, hcs, List.cons_append, readValue_of_number hc, hread, Option.map_some]
  | string s =>
      obtain ⟨body, hs, hbody⟩ := readString_stringChars s
      rw [readValue, hskip, chars, hs, List.cons_append]
      simp only [hbody, Option.map_some]
  | array xs =>
      cases xs with
      | nil => rfl
      | cons x xs =>
          obtain ⟨c, cs, hcs, -, hc⟩ := exists_chars_eq layout (level + 1) x
          have hgap : skipSpace (layout.gap (level + 1)
                ++ (chars layout (level + 1) x ++ (elementsChars layout level xs ++ rest)))
              = chars layout (level + 1) x ++ (elementsChars layout level xs ++ rest) :=
            skipSpace_gap_append layout (level + 1) (not_isSpace_head layout (level + 1) x _)
          have helements := h.elements level [] x xs rest (by
            simp only [chars, List.length_cons, List.length_append] at hlen
            omega)
          rw [readValue, hskip, chars]
          simp only [List.cons_append, List.append_assoc, hgap]
          rw [hcs, List.cons_append] at helements ⊢
          split
          · next heq => exact absurd (List.cons.inj heq).1 hc
          · exact helements
  | object ms =>
      cases ms with
      | nil => rfl
      | cons m ms =>
          obtain ⟨key, x⟩ := m
          obtain ⟨body, hkey, -⟩ := readString_stringChars key
          have hgap : skipSpace (layout.gap (level + 1) ++ (stringChars key ++ (layout.colon
                ++ (chars layout (level + 1) x ++ (membersChars layout level ms ++ rest)))))
              = stringChars key ++ (layout.colon
                ++ (chars layout (level + 1) x ++ (membersChars layout level ms ++ rest))) := by
            rw [hkey]
            exact skipSpace_gap_cons layout (level + 1) (by decide) _
          have hmembers := h.members level [] key x ms rest (by
            simp only [chars, List.length_cons, List.length_append] at hlen
            omega)
          rw [readValue, hskip, chars]
          simp only [List.cons_append, List.append_assoc, hgap]
          rw [hkey, List.cons_append] at hmembers ⊢
          exact hmembers

theorem reads (fuel : Nat) : Reads layout fuel := by
  induction fuel with
  | zero =>
      constructor
      · exact fun _ _ _ hlen => absurd hlen (Nat.not_lt_zero _)
      · exact fun _ _ _ _ _ hlen => absurd hlen (Nat.not_lt_zero _)
      · exact fun _ _ _ _ _ _ hlen => absurd hlen (Nat.not_lt_zero _)
  | succ fuel ih => exact ⟨ih.value_succ, ih.elements_succ, ih.members_succ⟩

/-- The text of a JSON value is read as the value. -/
theorem read?_text (layout : JsonLayout) (j : Json) : read? (j.text layout) = some j := by
  have hread := (reads ((chars layout 0 j).length + 1)).value 0 j [] (Nat.lt_succ_self _)
    endsNumber_nil
  rw [List.append_nil] at hread
  rw [read?, text, String.toList_ofList, hread]
  rfl

end Json

end CounterMachine
