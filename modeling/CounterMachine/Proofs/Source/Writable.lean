import CounterMachine.Proofs.Source.ConfigurationScan
import CounterMachine.Proofs.Source.Grammar
import CounterMachine.Proofs.Text.NormalForm
import CounterMachine.Source.Load
import Mathlib.Data.List.TakeWhile

/-!
# What loading can give

`Setup.Writable` says of a setup, without mentioning any text, that program text
can describe it.  Here every loaded setup is shown to be writable; the module on
listings shows that every writable setup is loaded from its listing.

The setups of a saved state need not be writable: their order may disagree with
their table, and their labels may be any text.
-/

namespace CounterMachine

open Text

namespace Label

/-- A label that a line of a program can define. -/
structure Definable (l : Label) : Prop where
  ne_empty : l.text ≠ ""
  normal : .ofName l.text = l
  no_colon : ':' ∉ l.text.toList
  no_sharp : l.text.toList.head? ≠ some '#'

/-- A label that an instruction can go to.  It may be empty. -/
structure Targetable (l : Label) : Prop where
  normal : .ofName l.text = l
  no_colon : ':' ∉ l.text.toList
  no_comma : ',' ∉ l.text.toList

theorem normal_iff {l : Label} : .ofName l.text = l ↔ ∀ c ∈ l.text.toList, IsNormal c := by
  rw [← normalize_eq_self_iff, Label.ext_iff]
  rfl

theorem toList_text_ofChars {cs : List Char} (h : ∀ c ∈ cs, IsNormal c) :
    (ofChars cs).text.toList = cs := by
  rw [ofChars, String.toList_ofList, normalizeChars_of_isNormal h]

theorem ofChars_toList_text {l : Label} (h : .ofName l.text = l) :
    ofChars l.text.toList = l := by
  rw [← ofName_eq_ofChars, h]

end Label

/-- The start label is a row of digits, or a word of small letters and underscores
that some value follows. -/
structure Configuration.Startable (config : Configuration) : Prop where
  ne_empty : config.startLabel.text ≠ ""
  shape : (∀ c ∈ config.startLabel.text.toList, c.isDigit = true) ∨
    (∀ c ∈ config.startLabel.text.toList, c.isLower = true ∨ c = '_')
      ∧ config.registers.isEmpty = false

/-- A definition that a line of a program can give. -/
structure Definition.Writable (d : Label × Instruction) : Prop where
  label : d.1.Definable
  targets : ∀ t ∈ d.2.targets, t.Targetable
  register : ∀ r, d.2.register? = some r → r ≤ Registers.highest

/-- A setup that program text can describe. -/
structure Setup.Writable (s : Setup) : Prop where
  start : s.config.Startable
  nodup : s.program.order.Nodup
  mem_order_iff : ∀ l, l ∈ s.program.order ↔ s.program.defines l = true
  label : ∀ l, s.program.defines l = true → l.Definable
  targets : ∀ l i, s.program.get? l = some i → ∀ t ∈ i.targets, t.Targetable
  registers : s.program.EachRegister (· ≤ Registers.highest)

/-! ## The configuration -/

namespace Configuration

theorem isWordChar_of_letter {c : Char} (h : c.isLower = true ∨ c = '_') :
    isWordChar c = true ∧ c.isDigit = false ∧ IsNormal c := by
  rcases h with h | rfl
  · have hdigit : c.isDigit = false := by
      rw [Bool.eq_false_iff]
      intro hd
      have hlower := toNat_of_isLower h
      have hdigit := toNat_of_isDigit hd
      omega
    refine ⟨?_, hdigit, isNormal_of_isLower h⟩
    simp [isWordChar_eq, h]
  · decide

theorem Startable.isNormal {config : Configuration} (h : config.Startable) :
    ∀ c ∈ config.startLabel.text.toList, IsNormal c := by
  intro c hc
  rcases h.shape with hd | ⟨hl, -⟩
  · exact isNormal_of_isDigit (hd c hc)
  · exact (isWordChar_of_letter (hl c hc)).2.2

theorem startable_atDigits {c : Char} {cs : List Char} (hc : c.isDigit = true) :
    (atDigits (c :: cs)).Startable := by
  have hdigits : ∀ d ∈ (c :: cs).takeWhile Char.isDigit, d.isDigit = true :=
    fun d hd => List.mem_takeWhile_imp hd
  have htext : (atDigits (c :: cs)).startLabel.text.toList = (c :: cs).takeWhile Char.isDigit :=
    Label.toList_text_ofChars fun d hd => isNormal_of_isDigit (hdigits d hd)
  constructor
  · rw [Ne, ← String.toList_inj, htext, List.takeWhile_cons_of_pos hc]
    simp
  · rw [htext]
    exact Or.inl hdigits

theorem startable_of_atWord? {cs : List Char} {config : Configuration}
    (hn : ∀ c ∈ cs, IsNormal c) (h : atWord? cs = some config) : config.Startable := by
  simp only [atWord?, Option.ite_none_right_eq_some, Option.some.injEq] at h
  obtain ⟨⟨hne, hdigits, hvalues⟩, rfl⟩ := h
  have hword : ∀ c ∈ cs.takeWhile isWordChar, IsNormal c :=
    fun c hc => hn c ((List.takeWhile_prefix _).subset hc)
  have htext := Label.toList_text_ofChars hword
  constructor
  · simp only [Ne, ← String.toList_inj, htext]
    exact hne
  · right
    rw [htext]
    constructor
    · intro c hc
      have hw : isWordChar c = true := List.mem_takeWhile_imp hc
      have hd := List.all_eq_true.1 hdigits c hc
      have hu := isUpper_eq_false_of_isNormal (hword c hc)
      simp only [isWordChar_eq, hu, Bool.false_or, Bool.or_eq_true, beq_iff_eq] at hw
      rcases hw with (hl | hd') | hc
      · exact Or.inl hl
      · rw [hd'] at hd
        cases hd
      · exact Or.inr hc
    · simpa [Registers.isEmpty, Registers.ofList] using hvalues

theorem startable_of_find? {inWord : Bool} {cs : List Char} {config : Configuration}
    (hn : ∀ c ∈ cs, IsNormal c) (h : find? inWord cs = some config) : config.Startable := by
  induction cs generalizing inWord with
  | nil => cases h
  | cons c cs ih =>
      rw [find?] at h
      split at h
      · next hc =>
        cases h
        exact startable_atDigits hc
      · split at h
        · next config' hword =>
          cases h
          cases inWord with
          | true => cases hword
          | false => exact startable_of_atWord? hn hword
        · exact ih (fun d hd => hn d (List.mem_cons_of_mem c hd)) h

end Configuration

/-! ## Definitions -/

namespace Definition

theorem Spells.targets {body : List Char} {i : Instruction} (h : Spells body i) :
    ∀ t ∈ i.targets, ∃ cs, t = .ofChars cs ∧ ',' ∉ cs ∧ ∀ c ∈ cs, c ∈ body := by
  intro t ht
  cases h with
  | halt => cases ht
  | increment _ _ hn =>
      obtain rfl : t = _ := by simpa [Instruction.targets] using ht
      exact ⟨_, rfl, hn, fun c hc => by simp [hc]⟩
  | decrement _ _ hn hz =>
      obtain rfl | rfl : t = _ ∨ t = _ := by simpa [Instruction.targets] using ht
      · exact ⟨_, rfl, hn, fun c hc => by simp [hc]⟩
      · exact ⟨_, rfl, hz, fun c hc => by simp [hc]⟩

theorem Spells.register {body : List Char} {i : Instruction} (h : Spells body i) :
    ∀ r, i.register? = some r → r ≤ Registers.highest := by
  intro r hr
  cases h <;> cases hr <;> assumption

theorem writable_of_reads {line : Line} {d : Label × Instruction}
    (hn : ∀ c ∈ line.text.toList, IsNormal c) (hs : line.isSignificant = true)
    (h : Reads line d) : Writable d := by
  obtain ⟨name, body, htext, hne, hname, hbody, hlabel, hspells⟩ := h
  have hnormal : ∀ c ∈ name, IsNormal c := fun c hc => hn c (by simp [htext, hc])
  have hchars : d.1.text.toList = name := by rw [hlabel, Label.toList_text_ofChars hnormal]
  refine ⟨⟨?_, ?_, ?_, ?_⟩, fun t ht => ?_, hspells.register⟩
  · rw [Ne, ← String.toList_inj, hchars]
    simpa using hne
  · rw [Label.normal_iff, hchars]
    exact hnormal
  · rwa [hchars]
  · obtain ⟨c, cs, hcs, hc⟩ := Line.isSignificant_iff.1 hs
    obtain ⟨b, bs, rfl⟩ := List.exists_cons_of_ne_nil hne
    rw [htext, List.cons_append, List.cons.injEq] at hcs
    rw [hchars, List.head?_cons, hcs.1, Ne, Option.some.injEq]
    exact hc
  · obtain ⟨cs, rfl, hcomma, hsub⟩ := hspells.targets t ht
    have hcs : ∀ c ∈ cs, IsNormal c := fun c hc => hn c (by simp [htext, hsub c hc])
    have hchars := Label.toList_text_ofChars hcs
    refine ⟨?_, ?_, ?_⟩
    · rwa [Label.normal_iff, hchars]
    · rw [hchars]
      exact fun hc => hbody (hsub _ hc)
    · rwa [hchars]

end Definition

/-! ## Setups -/

theorem of_mem_significantLines {source : String} {line : Line}
    (h : line ∈ significantLines source) :
    (∀ c ∈ line.text.toList, IsNormal c) ∧ line.isSignificant = true := by
  obtain ⟨hm, hs⟩ := List.mem_filter.1 h
  obtain ⟨⟨cs, i⟩, -, rfl⟩ := List.mem_map.1 hm
  refine ⟨fun c hc => ?_, hs⟩
  simp only [Line.ofRaw, toList_normalize] at hc
  exact isNormal_of_mem_normalizeChars hc

namespace Setup

theorem ofLines_eq_ok_iff {lines : List Line} {s : Setup} :
    ofLines lines = .ok s ↔
      ∃ first rest, lines = first :: rest
        ∧ Configuration.find? false first.text.toList = some s.config
        ∧ Program.ofLines rest = .ok s.program := by
  constructor
  · intro h
    unfold ofLines at h
    split at h
    · cases h
    · next first rest =>
      split at h
      · cases h
      · next config hconfig =>
        cases hp : Program.ofLines rest with
        | error e =>
            rw [hp] at h
            cases h
        | ok program =>
            rw [hp] at h
            cases h
            exact ⟨first, rest, rfl, Configuration.ofLine_eq_ok_iff.1 hconfig, hp⟩
  · rintro ⟨first, rest, rfl, hconfig, hp⟩
    rw [ofLines, Configuration.ofLine_eq_ok_iff.2 hconfig, hp]
    rfl

theorem writable_iff {s : Setup} :
    s.Writable ↔ s.config.Startable ∧
      ∃ defs : List (Label × Instruction), (defs.map (·.1)).Nodup
        ∧ (∀ d ∈ defs, Definition.Writable d) ∧ s.program = .ofDefinitions defs := by
  constructor
  · intro h
    obtain ⟨defs, hn, hp⟩ := Program.exists_eq_ofDefinitions h.nodup h.mem_order_iff
    refine ⟨h.start, defs, hn, fun d hd => ?_, hp⟩
    have hget : s.program.get? d.1 = some d.2 := hp ▸ Program.get?_ofDefinitions_of_mem hn hd
    have hdef : s.program.defines d.1 = true := by
      rw [Program.defines_iff, hget]
      rfl
    exact ⟨h.label d.1 hdef, h.targets d.1 d.2 hget, h.registers d.1 d.2 hget⟩
  · rintro ⟨hstart, defs, hn, hd, hp⟩
    have hmem : ∀ l i, s.program.get? l = some i → Definition.Writable (l, i) := by
      intro l i hi
      rw [hp, Program.get?_ofDefinitions_eq_some_iff hn] at hi
      exact hd (l, i) hi
    constructor
    · exact hstart
    · rw [hp]
      exact hn
    · intro l
      rw [hp, Program.defines_ofDefinitions_iff hn, Program.order_ofDefinitions]
    · intro l hl
      obtain ⟨i, hi⟩ := Option.isSome_iff_exists.1 (Program.defines_iff.1 hl)
      exact (hmem l i hi).label
    · exact fun l i hi => (hmem l i hi).targets
    · exact fun l i hi => (hmem l i hi).register

theorem writable_of_load {source : String} {s : Setup} (h : load source = .ok s) :
    s.Writable := by
  obtain ⟨first, rest, hlines, hconfig, hprogram⟩ := ofLines_eq_ok_iff.1 h
  obtain ⟨defs, hreads, hn, hp⟩ := Program.ofLines_eq_ok_iff.1 hprogram
  have hline : ∀ line ∈ first :: rest,
      (∀ c ∈ line.text.toList, IsNormal c) ∧ line.isSignificant = true :=
    fun line hm => of_mem_significantLines (hlines ▸ hm)
  refine writable_iff.2 ⟨?_, defs, hn, fun d hd => ?_, hp⟩
  · exact Configuration.startable_of_find? (hline first List.mem_cons_self).1 hconfig
  · obtain ⟨line, hm, hr⟩ := Definition.exists_reads_of_mem hreads hd
    have hl := hline line (List.mem_cons_of_mem first hm)
    exact Definition.writable_of_reads hl.1 hl.2 hr

end Setup

end CounterMachine
