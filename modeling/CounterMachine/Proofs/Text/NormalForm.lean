import CounterMachine.Text.Normalize
import CounterMachine.Text.Word

/-!
# Characters in normal form

A character is in normal form when normalizing leaves it as it is.  Everything
that normalizing gives is in normal form, because no lower-case form is white
space or stands in the table of capitals again.  So normalizing once more
changes nothing, and whatever is cut out of a normalized line is normalized.

* `isNormal_of_mem_normalizeChars`: normalizing gives characters in normal form;
* `normalizeChars_eq_self_iff`: a text is its own normal form just when each of
  its characters is.
-/

namespace CounterMachine.Text

/-- A character that normalizing leaves as it is. -/
def IsNormal (c : Char) : Prop := isBlank c = false ∧ lower c = [c]

instance (c : Char) : Decidable (IsNormal c) := inferInstanceAs (Decidable (_ ∧ _))

/-! ## The table of capitals -/

namespace CaseRun

def Covers (r : CaseRun) (n : Nat) : Prop :=
  r.first ≤ n ∧ n ≤ r.last ∧ (n - r.first) % r.stride = 0

def lastTarget (r : CaseRun) : Nat := r.target + (r.last - r.first)

/-- No code point that `r` gives is lowered by `q`: they lie on one side of it, or
between the capitals of a run where every other letter is a capital. -/
def apart (r q : CaseRun) : Bool :=
  r.lastTarget.blt q.first || q.last.blt r.target
    || (q.stride.beq 2 && (r.stride.beq 2 || r.last.beq r.first)
      && ((r.target + q.first) % 2).beq 1)

/-- The code points a run gives are characters other than the capital I with a
dot, and neither white space nor lowered again. -/
def settled (r : CaseRun) : Bool :=
  (r.lastTarget.blt 0xD800 || (Nat.blt 0xDFFF r.target && r.lastTarget.blt 0x110000))
    && (r.lastTarget.blt 0x130 || Nat.blt 0x130 r.target)
    && blankRanges.all (fun b => r.lastTarget.blt b.first || b.last.blt r.target)
    && caseRuns.all r.apart

end CaseRun

theorem toNat_ofNat {n : Nat} (h : n.isValidChar) : (Char.ofNat n).toNat = n := by
  rw [Char.ofNat, dif_pos h]
  rfl

theorem settled_of_mem_caseRuns {r : CaseRun} (h : r ∈ caseRuns) : r.settled = true := by
  have hall : caseRuns.all CaseRun.settled = true := by decide +kernel
  exact List.all_eq_true.1 hall r h

theorem lowerCode_of_not_covers {rs : List CaseRun} {n : Nat} (h : ∀ r ∈ rs, ¬ r.Covers n) :
    lowerCode rs n = n := by
  induction rs with
  | nil => rfl
  | cons r rs ih =>
      have hr : ¬ r.Covers n := h r List.mem_cons_self
      rw [lowerCode]
      split
      · exact ih fun q hq => h q (List.mem_cons_of_mem _ hq)
      · next hl =>
        exact if_neg fun hc => hr ⟨hc.1, Nat.le_of_not_lt hl, hc.2⟩

theorem lowerCode_eq_or (rs : List CaseRun) (n : Nat) :
    lowerCode rs n = n ∨ ∃ r ∈ rs, r.Covers n ∧ lowerCode rs n = r.target + (n - r.first) := by
  induction rs with
  | nil => exact Or.inl rfl
  | cons r rs ih =>
      rw [lowerCode]
      split
      · rcases ih with h | ⟨q, hq, hc, h⟩
        · exact Or.inl h
        · exact Or.inr ⟨q, List.mem_cons_of_mem _ hq, hc, h⟩
      · next hl =>
        split
        · next hc =>
          exact Or.inr ⟨r, List.mem_cons_self, ⟨hc.1, Nat.le_of_not_lt hl, hc.2⟩, rfl⟩
        · exact Or.inl rfl

theorem not_covers_of_apart {r q : CaseRun} {n : Nat} (h : r.apart q = true)
    (hn : r.Covers n) : ¬ q.Covers (r.target + (n - r.first)) := by
  obtain ⟨hf, hl, hs⟩ := hn
  rintro ⟨hqf, hql, hqs⟩
  simp only [CaseRun.apart, CaseRun.lastTarget, Bool.or_eq_true, Bool.and_eq_true, Nat.blt_eq,
    Nat.beq_eq] at h
  rcases h with (h | h) | ⟨⟨hq, hr⟩, hp⟩
  · omega
  · omega
  · rw [hq] at hqs
    rcases hr with hr | hr
    · rw [hr] at hs
      omega
    · omega

theorem isNormal_ofNat_of_covers {r : CaseRun} (hr : r ∈ caseRuns) {n : Nat} (hn : r.Covers n) :
    IsNormal (Char.ofNat (r.target + (n - r.first))) := by
  have hs := settled_of_mem_caseRuns hr
  simp only [CaseRun.settled, CaseRun.lastTarget, Bool.and_eq_true, Bool.or_eq_true, Nat.blt_eq,
    List.all_eq_true] at hs
  obtain ⟨⟨⟨hvalid, hdot⟩, hblank⟩, hapart⟩ := hs
  have hle : n - r.first ≤ r.last - r.first := Nat.sub_le_sub_right hn.2.1 _
  have hchar : (r.target + (n - r.first)).isValidChar := by
    unfold Nat.isValidChar
    omega
  have hcode := toNat_ofNat hchar
  constructor
  · rw [isBlank, List.any_eq_false]
    intro b hb hc
    rw [CodeRange.contains_iff, hcode] at hc
    have := hblank b hb
    omega
  · have hne : Char.ofNat (r.target + (n - r.first)) ≠ '\u0130' := by
      intro he
      rw [he] at hcode
      have : Char.toNat '\u0130' = 0x130 := by decide
      omega
    rw [lower, if_neg hne, hcode,
      lowerCode_of_not_covers fun q hq => not_covers_of_apart (hapart q hq) hn]

/-! ## What normalizing gives -/

theorem isNormal_of_mem_lower {c d : Char} (hc : isBlank c = false) (hd : d ∈ lower c) :
    IsNormal d := by
  by_cases hdot : c = '\u0130'
  · have hd' : d = 'i' ∨ d = '\u0307' := by simpa [lower, hdot] using hd
    rcases hd' with rfl | rfl <;> decide
  · rw [lower, if_neg hdot, List.mem_singleton] at hd
    rcases lowerCode_eq_or caseRuns c.toNat with h | ⟨r, hr, hn, h⟩
    · have hdc : d = c := by rw [hd, h, Char.ofNat_toNat]
      rw [hdc]
      refine ⟨hc, ?_⟩
      rw [lower, if_neg hdot, h, Char.ofNat_toNat]
    · rw [hd, h]
      exact isNormal_ofNat_of_covers hr hn

theorem isNormal_of_mem_normalizeChars {cs : List Char} {d : Char}
    (h : d ∈ normalizeChars cs) : IsNormal d := by
  simp only [normalizeChars, List.mem_flatMap, List.mem_filter, Bool.not_eq_true'] at h
  obtain ⟨c, ⟨-, hc⟩, hd⟩ := h
  exact isNormal_of_mem_lower hc hd

theorem normalizeChars_of_isNormal {cs : List Char} (h : ∀ c ∈ cs, IsNormal c) :
    normalizeChars cs = cs := by
  induction cs with
  | nil => rfl
  | cons c cs ih =>
      obtain ⟨hb, hl⟩ := h c List.mem_cons_self
      have hcs := ih fun d hd => h d (List.mem_cons_of_mem _ hd)
      calc normalizeChars (c :: cs) = lower c ++ normalizeChars cs := by
            simp [normalizeChars, hb]
        _ = c :: cs := by rw [hl, hcs, List.singleton_append]

theorem normalizeChars_eq_self_iff {cs : List Char} :
    normalizeChars cs = cs ↔ ∀ c ∈ cs, IsNormal c := by
  constructor
  · intro h c hc
    rw [← h] at hc
    exact isNormal_of_mem_normalizeChars hc
  · exact normalizeChars_of_isNormal

theorem normalize_eq_self_iff {s : String} :
    normalize s = s ↔ ∀ c ∈ s.toList, IsNormal c := by
  rw [← normalizeChars_eq_self_iff, ← String.toList_inj, toList_normalize]

theorem normalize_append (a b : String) : normalize (a ++ b) = normalize a ++ normalize b := by
  rw [← String.toList_inj]
  simp only [String.toList_append, toList_normalize, normalizeChars_append]

theorem normalize_normalize (a : String) : normalize (normalize a) = normalize a := by
  rw [normalize_eq_self_iff, toList_normalize]
  exact fun _ hc => isNormal_of_mem_normalizeChars hc

theorem normalizeChars_cons_of_isNormal {c : Char} (h : IsNormal c) (cs : List Char) :
    normalizeChars (c :: cs) = c :: normalizeChars cs := by
  simp [normalizeChars, h.1, h.2]

theorem normalizeChars_cons_of_isBlank {c : Char} (h : isBlank c = true) (cs : List Char) :
    normalizeChars (c :: cs) = normalizeChars cs := by
  simp [normalizeChars, h]

theorem normalizeChars_replicate_of_isBlank {c : Char} (h : isBlank c = true) (n : Nat) :
    normalizeChars (List.replicate n c) = [] := by
  induction n with
  | zero => rfl
  | succ n ih => rw [List.replicate_succ, normalizeChars_cons_of_isBlank h, ih]

theorem normalizeChars_flatMap {α : Type} (f : α → List Char) (xs : List α) :
    normalizeChars (xs.flatMap f) = xs.flatMap fun x => normalizeChars (f x) := by
  induction xs with
  | nil => rfl
  | cons x xs ih => rw [List.flatMap_cons, normalizeChars_append, ih, List.flatMap_cons]

/-! ## Letters and digits of ASCII -/

theorem lowerCode_of_between {n : Nat} (hl : 0x5A < n) (hu : n < 0xC0) :
    lowerCode caseRuns n = n := by
  rw [caseRuns, lowerCode, if_pos hl, lowerCode, if_neg (by simp only; omega),
    if_neg (by simp only; omega)]

theorem lowerCode_capital {n : Nat} (hl : 0x41 ≤ n) (hu : n ≤ 0x5A) :
    lowerCode caseRuns n = n + 0x20 := by
  rw [caseRuns, lowerCode, if_neg (by simp only; omega), if_pos (by simp only; omega)]
  simp only
  omega

theorem isNormal_of_visible {c : Char} (hl : 0x20 < c.toNat) (hu : c.toNat < 0x7F)
    (hc : c.toNat < 0x41 ∨ 0x5A < c.toNat) : IsNormal c := by
  constructor
  · rw [isBlank, List.any_eq_false]
    intro b hb h
    rw [CodeRange.contains_iff] at h
    simp only [blankRanges, List.mem_cons, List.not_mem_nil, or_false] at hb
    rcases hb with rfl | rfl | rfl | rfl | rfl | rfl | rfl | rfl | rfl | rfl <;>
      simp only at h <;> omega
  · have hne : c ≠ '\u0130' := by
      rintro rfl
      exact absurd hu (by decide)
    have hcode : lowerCode caseRuns c.toNat = c.toNat := by
      rcases hc with hc | hc
      · exact lowerCode_of_lt hc
      · exact lowerCode_of_between hc (by omega)
    rw [lower, if_neg hne, hcode, Char.ofNat_toNat]

theorem toNat_of_isDigit {c : Char} (h : c.isDigit = true) : 0x30 ≤ c.toNat ∧ c.toNat ≤ 0x39 :=
  Char.isDigit_iff_toNat.1 h

theorem toNat_of_isLower {c : Char} (h : c.isLower = true) :
    0x61 ≤ c.toNat ∧ c.toNat ≤ 0x7A := by
  have hc : (decide (c.val ≥ 'a'.val) && decide (c.val ≤ 'z'.val)) = true := h
  simpa [UInt32.le_iff_toNat_le] using hc

theorem toNat_of_isUpper {c : Char} (h : c.isUpper = true) :
    0x41 ≤ c.toNat ∧ c.toNat ≤ 0x5A := by
  have hc : decide (c.val ≥ 'A'.val ∧ c.val ≤ 'Z'.val) = true := h
  simpa [UInt32.le_iff_toNat_le] using hc

theorem isNormal_of_isDigit {c : Char} (h : c.isDigit = true) : IsNormal c := by
  have hc := toNat_of_isDigit h
  exact isNormal_of_visible (by omega) (by omega) (by omega)

theorem isNormal_of_isLower {c : Char} (h : c.isLower = true) : IsNormal c := by
  have hc := toNat_of_isLower h
  exact isNormal_of_visible (by omega) (by omega) (by omega)

theorem isUpper_eq_false_of_isNormal {c : Char} (h : IsNormal c) : c.isUpper = false := by
  rw [Bool.eq_false_iff]
  intro hu
  have hc := toNat_of_isUpper hu
  have hne : c ≠ '\u0130' := by
    rintro rfl
    exact absurd hu (by decide)
  have hl := h.2
  rw [lower, if_neg hne, lowerCode_capital hc.1 hc.2, List.singleton_inj] at hl
  have hcode : (Char.ofNat (c.toNat + 0x20)).toNat = c.toNat + 0x20 :=
    toNat_ofNat (Or.inl (by omega))
  rw [hl] at hcode
  omega

end CounterMachine.Text
