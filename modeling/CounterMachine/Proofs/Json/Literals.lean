import CounterMachine.Json.Printer
import CounterMachine.Json.Reader
import CounterMachine.Text.Pieces

/-!
# Literals of JSON

A literal is read back as what it was written for, whatever stands behind it. The
end of a string is seen by its quote, see `readString_stringChars`; a number has no
end of its own, and what follows must not go on with it, see `EndsNumber` and
`readNumber_numberChars`.
-/

namespace CounterMachine

namespace Json

open Text

/-! ## Strings -/

theorem hexDigit?_digitChar {n : Nat} (h : n < 16) : hexDigit? (Nat.digitChar n) = some n := by
  have hall : ∀ d < 16, hexDigit? (Nat.digitChar d) = some d := by decide
  exact hall n h

theorem readCodes_escapeChar (done : List Nat) (c : Char) (cs : List Char) :
    readCodes done (escapeChar c ++ cs) = readCodes (c.toNat :: done) cs := by
  unfold escapeChar
  split
  -- the characters with a letter of their own
  iterate 7 rfl
  · split
    · next hc =>
      have hcode : hexUnit? '0' '0' (Nat.digitChar (c.toNat / 16)) (Nat.digitChar (c.toNat % 16))
          = some c.toNat := by
        have hzero : hexDigit? '0' = some 0 := by decide
        have hhigh := hexDigit?_digitChar (n := c.toNat / 16) (by omega)
        have hlow := hexDigit?_digitChar (n := c.toNat % 16) (by omega)
        simp only [hexUnit?, hzero, hhigh, hlow, Option.bind_eq_bind, Option.bind_some,
          Option.pure_def, Option.some.injEq]
        omega
      simp only [List.cons_append, List.nil_append, readCodes, hcode]
    · next hquote hbackslash _ _ _ _ _ hc =>
      rw [List.singleton_append, readCodes, if_neg hc]
      · exact hquote
      · exact fun _ _ _ _ _ h => absurd h hbackslash
      · exact fun _ _ h => absurd h hbackslash

theorem readCodes_flatMap_escapeChar (done : List Nat) (cs rest : List Char) :
    readCodes done (cs.flatMap escapeChar ++ rest)
      = readCodes ((cs.map Char.toNat).reverse ++ done) rest := by
  induction cs generalizing done with
  | nil => rfl
  | cons c cs ih =>
      rw [List.flatMap_cons, List.append_assoc, readCodes_escapeChar, ih, List.map_cons,
        List.reverse_cons, List.append_assoc, List.singleton_append]

theorem not_surrogate (c : Char) :
    isHighSurrogate c.toNat = false ∧ isLowSurrogate c.toNat = false := by
  have h : c.toNat < 0xD800 ∨ 0xDFFF < c.toNat ∧ c.toNat < 0x110000 := c.valid
  simp only [isHighSurrogate, isLowSurrogate, Bool.and_eq_false_iff, decide_eq_false_iff_not]
  omega

theorem assemble?_cons {code : Nat} (codes : List Nat) (hh : isHighSurrogate code = false)
    (hl : isLowSurrogate code = false) :
    assemble? (code :: codes) = (assemble? codes).map (Char.ofNat code :: ·) := by
  cases codes with
  | nil => simp [assemble?, hh, hl]
  | cons next codes => simp [assemble?, hh, hl]

theorem assemble?_map_toNat (cs : List Char) : assemble? (cs.map Char.toNat) = some cs := by
  induction cs with
  | nil => rfl
  | cons c cs ih =>
      obtain ⟨hh, hl⟩ := not_surrogate c
      rw [List.map_cons, assemble?_cons _ hh hl, ih, Option.map_some, Char.ofNat_toNat]

theorem readString_stringChars (s : Option String) :
    ∃ body, stringChars s = '"' :: body ∧ ∀ rest, readString (body ++ rest) = some (s, rest) := by
  cases s with
  | none => exact ⟨_, rfl, fun rest => rfl⟩
  | some s =>
      refine ⟨s.toList.flatMap escapeChar ++ ['"'], rfl, fun rest => ?_⟩
      rw [readString, List.append_assoc, readCodes_flatMap_escapeChar, List.append_nil,
        List.singleton_append, readCodes, List.reverse_reverse, Option.map_some]
      simp only [assemble?_map_toNat, Option.map_some, String.ofList_toList]

/-! ## Numbers -/

/-- Whether a text does not go on with the number before it. -/
def EndsNumber (rest : List Char) : Prop :=
  ∀ c ∈ rest.head?, c.isDigit = false ∧ c ≠ '.' ∧ c ≠ 'e' ∧ c ≠ 'E'

theorem endsNumber_nil : EndsNumber [] := by
  intro c hc
  cases hc

theorem endsNumber_cons {c : Char} (h : c.isDigit = false ∧ c ≠ '.' ∧ c ≠ 'e' ∧ c ≠ 'E')
    (rest : List Char) : EndsNumber (c :: rest) := by
  intro d hd
  obtain rfl : c = d := by simpa using hd
  exact h

theorem toDigits_eq_zero_cons {n : Nat} {ds : List Char} (h : Nat.toDigits 10 n = '0' :: ds) :
    n = 0 ∧ ds = [] := by
  induction n using Nat.strongRecOn generalizing ds with
  | ind n ih =>
      by_cases hn : n < 10
      · rw [Nat.toDigits_of_lt_base hn, List.cons.injEq, Nat.digitChar_eq_zero] at h
        exact ⟨h.1, h.2.symm⟩
      · rw [Nat.toDigits_of_base_le (by decide) (Nat.le_of_not_lt hn)] at h
        cases htens : Nat.toDigits 10 (n / 10) with
        | nil => exact absurd htens Nat.toDigits_ne_nil
        | cons d es =>
            rw [htens, List.cons_append, List.cons.injEq] at h
            have hzero := ih (n / 10) (by omega) (h.1 ▸ htens)
            omega

theorem readDigits_append {ds rest : List Char} (hne : ds ≠ [])
    (hds : ∀ c ∈ ds, c.isDigit = true) (hrest : ∀ c ∈ rest.head?, c.isDigit = false) :
    readDigits (ds ++ rest) = some (ds, rest) := by
  obtain ⟨htake, hdrop⟩ := span_append hds hrest
  simp only [readDigits, htake, hdrop, if_neg hne]

theorem readDigits_toDigits (n : Nat) {rest : List Char}
    (hrest : ∀ c ∈ rest.head?, c.isDigit = false) :
    readDigits (Nat.toDigits 10 n ++ rest) = some (Nat.toDigits 10 n, rest) :=
  readDigits_append Nat.toDigits_ne_nil
    (fun _ hc => Nat.isDigit_of_mem_toDigits (by decide) (by decide) hc) hrest

theorem readInteger_toDigits (n : Nat) {rest : List Char}
    (hrest : ∀ c ∈ rest.head?, c.isDigit = false) :
    readInteger (Nat.toDigits 10 n ++ rest) = some (Nat.toDigits 10 n, rest) := by
  cases hd : Nat.toDigits 10 n with
  | nil => exact absurd hd Nat.toDigits_ne_nil
  | cons d ds =>
      by_cases hzero : d = '0'
      · subst hzero
        obtain ⟨-, rfl⟩ := toDigits_eq_zero_cons hd
        rfl
      · rw [← hd, readInteger, readDigits_toDigits n hrest]
        rw [hd, List.cons_append]
        exact fun _ h => hzero (List.cons.inj h).1

theorem readFraction_of_endsNumber {rest : List Char} (h : EndsNumber rest) :
    readFraction rest = some ([], rest) := by
  cases rest with
  | nil => rfl
  | cons c cs =>
      rw [readFraction]
      exact fun _ hc => (h c rfl).2.1 (List.cons.inj hc).1

theorem readExponent_of_endsNumber {rest : List Char} (h : EndsNumber rest) :
    readExponent rest = some (none, rest) := by
  cases rest with
  | nil => rfl
  | cons c cs =>
      obtain ⟨-, -, he, hE⟩ := h c rfl
      simp only [readExponent, he, hE, or_self, if_false]

theorem EndsNumber.not_isDigit {rest : List Char} (h : EndsNumber rest) :
    ∀ c ∈ rest.head?, c.isDigit = false := fun c hc => (h c hc).1

def exponentChars : Int → List Char
  | .ofNat e => ['e', '+'] ++ Nat.toDigits 10 e
  | .negSucc e => ['e', '-'] ++ Nat.toDigits 10 (e + 1)

theorem readExponent_exponentChars (e : Int) {rest : List Char}
    (h : ∀ c ∈ rest.head?, c.isDigit = false) :
    readExponent (exponentChars e ++ rest) = some (some e, rest) := by
  cases e with
  | ofNat e =>
      simp only [exponentChars, List.cons_append, List.nil_append, readExponent, true_or, if_true,
        readDigits_toDigits e h, Option.map_some, numeral_toDigits]
      rfl
  | negSucc e =>
      simp only [exponentChars, List.cons_append, List.nil_append, readExponent, true_or, if_true,
        readDigits_toDigits (e + 1) h, Option.map_some, numeral_toDigits]
      rfl

theorem readUnsigned_natural (n : Nat) {rest : List Char} (h : EndsNumber rest) :
    readUnsigned false (Nat.toDigits 10 n ++ rest) = some (.natural n, rest) := by
  simp only [readUnsigned, readInteger_toDigits n h.not_isDigit, readFraction_of_endsNumber h,
    readExponent_of_endsNumber h, and_self, if_true, numeral_toDigits]

theorem readUnsigned_decimal (negative : Bool) (digits : Nat) (e : Int) {rest : List Char}
    (h : EndsNumber rest) :
    readUnsigned negative (Nat.toDigits 10 digits ++ (exponentChars e ++ rest))
      = some (.decimal negative digits e, rest) := by
  have hdigits : ∀ c ∈ (exponentChars e ++ rest).head?, c.isDigit = false := by
    cases e <;> simp [exponentChars]
  have hfraction : readFraction (exponentChars e ++ rest) = some ([], exponentChars e ++ rest) := by
    cases e <;> rfl
  simp only [readUnsigned, readInteger_toDigits digits hdigits, hfraction,
    readExponent_exponentChars e h.not_isDigit]
  simp

theorem readNumber_toDigits (n : Nat) (rest : List Char) :
    readNumber (Nat.toDigits 10 n ++ rest) = readUnsigned false (Nat.toDigits 10 n ++ rest) := by
  rw [readNumber]
  intro tail htail
  cases hd : Nat.toDigits 10 n with
  | nil => exact Nat.toDigits_ne_nil hd
  | cons d ds =>
      rw [hd, List.cons_append, List.cons.injEq] at htail
      have hdigit : d.isDigit = true :=
        Nat.isDigit_of_mem_toDigits (by decide) (by decide) (hd ▸ List.mem_cons_self)
      rw [htail.1] at hdigit
      exact absurd hdigit (by decide)

theorem numberChars_decimal (negative : Bool) (digits : Nat) (e : Int) :
    numberChars (.decimal negative digits e)
      = (if negative then ['-'] else []) ++ (Nat.toDigits 10 digits ++ exponentChars e) := by
  cases e <;> simp [numberChars, exponentChars]

theorem readNumber_numberChars (n : JsonNumber) {rest : List Char} (h : EndsNumber rest) :
    readNumber (numberChars n ++ rest) = some (n, rest) := by
  cases n with
  | natural n =>
      rw [numberChars, readNumber_toDigits, readUnsigned_natural n h]
  | decimal negative digits e =>
      rw [numberChars_decimal, List.append_assoc, List.append_assoc]
      cases negative with
      | false =>
          rw [if_neg Bool.false_ne_true, List.nil_append, readNumber_toDigits,
            readUnsigned_decimal false digits e h]
      | true =>
          rw [if_pos rfl, List.singleton_append, readNumber, readUnsigned_decimal true digits e h]

end Json

end CounterMachine
