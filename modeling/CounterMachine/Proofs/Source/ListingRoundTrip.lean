import CounterMachine.Playground
import CounterMachine.Proofs.Source.Writable

/-!
# Listings are loaded back

The listing of a writable setup is loaded back as that setup.  The configuration
line and the line of each definition are taken one by one: normalizing a line of
the listing takes the blanks out again, and what is left is read as what was
written.
-/

namespace CounterMachine

open Text

/-! ## The configuration line -/

namespace Configuration

def valueChars (v : Nat) : List Char := ',' :: v.repr.toList

theorem span_valueChars {p : Char → Bool} {cs : List Char} (hcs : ∀ c ∈ cs, p c = true)
    (hp : p ',' = false) (vs : List Nat) :
    (cs ++ vs.flatMap valueChars).takeWhile p = cs
      ∧ (cs ++ vs.flatMap valueChars).dropWhile p = vs.flatMap valueChars := by
  apply span_append hcs
  intro c hc
  cases vs with
  | nil => cases hc
  | cons v vs =>
      cases hc
      exact hp

theorem values_valueChars (vs : List Nat) : values (vs.flatMap valueChars) = vs := by
  induction vs with
  | nil => rw [List.flatMap_nil, values]
  | cons v vs ih =>
      have hdigits : ∀ c ∈ v.repr.toList, c.isDigit = true := fun _ => isDigit_of_mem_repr
      obtain ⟨htake, hdrop⟩ := span_valueChars hdigits (by decide) vs
      rw [List.flatMap_cons, valueChars, List.cons_append, values, htake, hdrop,
        if_pos ⟨rfl, repr_toList_ne_nil v⟩, numeral_repr, ih]

theorem normalizeChars_text {config : Configuration}
    (h : ∀ c ∈ config.startLabel.text.toList, IsNormal c) :
    normalizeChars config.text.toList =
      config.startLabel.text.toList ++ config.registers.toList.flatMap valueChars := by
  have hvalue : ∀ v : Nat, normalizeChars (", " ++ v.repr).toList = valueChars v := by
    intro v
    have hdigits : ∀ c ∈ v.repr.toList, IsNormal c :=
      fun c hc => isNormal_of_isDigit (isDigit_of_mem_repr hc)
    have hchars : (", " ++ v.repr).toList = ',' :: ' ' :: v.repr.toList := by simp
    rw [hchars, normalizeChars_cons_of_isNormal (by decide),
      normalizeChars_cons_of_isBlank (by decide), normalizeChars_of_isNormal hdigits, valueChars]
  rw [Configuration.text, String.toList_append, String.toList_join, List.flatMap_map,
    normalizeChars_append, normalizeChars_flatMap, normalizeChars_of_isNormal h]
  simp only [hvalue]

theorem find?_text {config : Configuration} (h : config.Startable) :
    find? false (normalizeChars config.text.toList) = some config := by
  have hlabel : Label.ofChars config.startLabel.text.toList = config.startLabel :=
    Label.ofChars_toList_text (Label.normal_iff.2 h.isNormal)
  have hregisters : Registers.ofList config.registers.toList = config.registers :=
    Registers.ofList_toList _
  have hne : config.startLabel.text.toList ≠ [] := fun hnil =>
    h.ne_empty (String.toList_inj.1 hnil)
  rw [normalizeChars_text h.isNormal]
  obtain ⟨c, cs, hcs⟩ := List.exists_cons_of_ne_nil hne
  rcases h.shape with hdigits | ⟨hletters, hempty⟩
  · obtain ⟨htake, hdrop⟩ := span_valueChars hdigits (by decide) config.registers.toList
    have hc : c.isDigit = true := hdigits c (by simp [hcs])
    have hat : atDigits (config.startLabel.text.toList
        ++ config.registers.toList.flatMap valueChars) = config := by
      rw [atDigits, htake, hdrop, values_valueChars, hlabel, hregisters]
    rw [hcs, List.cons_append] at hat ⊢
    rw [find?, if_pos hc, hat]
  · have hword : ∀ d ∈ config.startLabel.text.toList, isWordChar d = true :=
      fun d hd => (isWordChar_of_letter (hletters d hd)).1
    have hnodigit : ∀ d ∈ config.startLabel.text.toList, d.isDigit = false :=
      fun d hd => (isWordChar_of_letter (hletters d hd)).2.1
    obtain ⟨htake, hdrop⟩ := span_valueChars hword (by decide) config.registers.toList
    have hvalues : config.registers.toList ≠ [] := by
      simpa [Registers.isEmpty, Registers.toList] using hempty
    have hat : atWord? (config.startLabel.text.toList
        ++ config.registers.toList.flatMap valueChars) = some config := by
      simp only [atWord?, htake, hdrop, values_valueChars, hlabel, hregisters]
      exact if_pos ⟨hne, by simpa using hnodigit, hvalues⟩
    have hc : ¬ c.isDigit = true := by simp [hnodigit c (by simp [hcs])]
    rw [hcs, List.cons_append] at hat ⊢
    rw [find?, if_neg hc]
    simp only [Bool.false_eq_true, if_false, hat]

end Configuration

/-! ## The line of a definition -/

theorem Label.newline_not_mem {l : Label} (h : .ofName l.text = l) : '\n' ∉ l.text.toList :=
  fun hm => absurd (Label.normal_iff.1 h '\n' hm) (by decide)

namespace Definition

theorem toList_text_increment (r : Nat) (next : Label) :
    (Instruction.increment r next).text.toList =
      operandChars .increment r.repr.toList ++ ',' :: ' ' :: next.text.toList := by
  simp [Instruction.text, operandChars, Operation.name]

theorem toList_text_decrement (r : Nat) (nonzero zero : Label) :
    (Instruction.decrement r nonzero zero).text.toList =
      operandChars .decrement r.repr.toList
        ++ ',' :: ' ' :: (nonzero.text.toList ++ ',' :: ' ' :: zero.text.toList) := by
  simp [Instruction.text, operandChars, Operation.name]

theorem normalizeChars_operand (o : Operation) (r : Nat) (cs : List Char) :
    normalizeChars (operandChars o r.repr.toList ++ cs) =
      operandChars o r.repr.toList ++ normalizeChars cs := by
  have hn : ∀ c ∈ operandChars o r.repr.toList, IsNormal c := by
    intro c hc
    simp only [operandChars, List.mem_append, List.mem_cons, List.not_mem_nil, or_false] at hc
    rcases hc with hc | rfl | rfl | hc | rfl
    · have hname : o.name.toList.all Char.isLower = true := by
        cases o <;> decide
      exact isNormal_of_isLower (List.all_eq_true.1 hname c hc)
    · decide
    · decide
    · exact isNormal_of_isDigit (isDigit_of_mem_repr hc)
    · decide
  rw [normalizeChars_append, normalizeChars_of_isNormal hn]

theorem normalizeChars_comma (cs : List Char) :
    normalizeChars (',' :: ' ' :: cs) = ',' :: normalizeChars cs := by
  rw [normalizeChars_cons_of_isNormal (by decide), normalizeChars_cons_of_isBlank (by decide)]

theorem spells_text {d : Label × Instruction} (h : Writable d) :
    Spells (normalizeChars d.2.text.toList) d.2 ∧ ':' ∉ normalizeChars d.2.text.toList
      ∧ '\n' ∉ d.2.text.toList := by
  obtain ⟨l, i⟩ := d
  have hnormal : ∀ t ∈ i.targets, normalizeChars t.text.toList = t.text.toList := fun t ht =>
    normalizeChars_of_isNormal (Label.normal_iff.1 (h.targets t ht).normal)
  have hlabel : ∀ t ∈ i.targets, Label.ofChars t.text.toList = t := fun t ht =>
    Label.ofChars_toList_text (h.targets t ht).normal
  have hline : ∀ t ∈ i.targets, '\n' ∉ t.text.toList := fun t ht =>
    Label.newline_not_mem (h.targets t ht).normal
  have hcolon : ∀ o r, ':' ∉ operandChars o (Nat.repr r).toList := fun o r =>
    not_mem_operandChars (numeral?_repr r) (by decide) (by decide)
  have hline' : ∀ o r, '\n' ∉ operandChars o (Nat.repr r).toList := fun o r =>
    not_mem_operandChars (numeral?_repr r) (by decide) (by decide)
  cases i with
  | halt =>
      have hhalt : normalizeChars Instruction.halt.text.toList = ['h', 'a', 'l', 't'] := by decide
      rw [hhalt]
      have hline : '\n' ∉ Instruction.halt.text.toList := by decide
      exact ⟨.halt, by decide, hline⟩
  | increment r next =>
      have hm : next ∈ (Instruction.increment r next).targets := by simp [Instruction.targets]
      have hs := Spells.increment (numeral?_repr r) (h.register r rfl) (h.targets next hm).no_comma
      rw [hlabel next hm] at hs
      rw [toList_text_increment, normalizeChars_operand, normalizeChars_comma, hnormal next hm]
      simp only [List.mem_append, List.mem_cons, not_or]
      exact ⟨hs, ⟨hcolon _ _, by decide, (h.targets next hm).no_colon⟩,
        hline' _ _, by decide, by decide, hline next hm⟩
  | decrement r nonzero zero =>
      have hm : nonzero ∈ (Instruction.decrement r nonzero zero).targets := by
        simp [Instruction.targets]
      have hm' : zero ∈ (Instruction.decrement r nonzero zero).targets := by
        simp [Instruction.targets]
      have hs := Spells.decrement (numeral?_repr r) (h.register r rfl)
        (h.targets nonzero hm).no_comma (h.targets zero hm').no_comma
      rw [hlabel nonzero hm, hlabel zero hm'] at hs
      rw [toList_text_decrement, normalizeChars_operand, normalizeChars_comma,
        normalizeChars_append, normalizeChars_comma, hnormal nonzero hm, hnormal zero hm']
      simp only [List.mem_append, List.mem_cons, not_or]
      exact ⟨hs, ⟨hcolon _ _, by decide, (h.targets nonzero hm).no_colon, by decide,
          (h.targets zero hm').no_colon⟩,
        hline' _ _, by decide, by decide, hline nonzero hm, by decide, by decide, hline zero hm'⟩

theorem toList_definition (width : Nat) (d : Label × Instruction) :
    (Listing.definition width d.1 d.2).toList =
      d.1.text.toList ++ ':' :: (List.replicate (width - (d.1.text ++ ":").length) ' '
        ++ ' ' :: d.2.text.toList) := by
  simp [Listing.definition, Listing.padded]

/-- The line of a definition that can be written reads as the definition. -/
theorem reads_definition {d : Label × Instruction} (h : Writable d) (width number : Nat) :
    Reads (.ofRaw number (Listing.definition width d.1 d.2)) d
      ∧ (Line.ofRaw number (Listing.definition width d.1 d.2)).isSignificant = true
      ∧ '\n' ∉ (Listing.definition width d.1 d.2).toList := by
  have hchars := toList_definition width d
  obtain ⟨hspells, hcolon, hline⟩ := spells_text h
  have hlabel : ∀ c ∈ d.1.text.toList, IsNormal c := Label.normal_iff.1 h.label.normal
  have hne : d.1.text.toList ≠ [] := fun hnil => h.label.ne_empty (String.toList_inj.1 hnil)
  have htext : (Line.ofRaw number (Listing.definition width d.1 d.2)).text.toList =
      d.1.text.toList ++ ':' :: normalizeChars d.2.text.toList := by
    simp only [Line.ofRaw, toList_normalize]
    rw [hchars, normalizeChars_append, normalizeChars_of_isNormal hlabel,
      normalizeChars_cons_of_isNormal (by decide), normalizeChars_append,
      normalizeChars_replicate_of_isBlank (by decide), List.nil_append,
      normalizeChars_cons_of_isBlank (by decide)]
  refine ⟨?_, ?_, ?_⟩
  · exact ⟨d.1.text.toList, _, htext, hne, h.label.no_colon, hcolon,
      (Label.ofChars_toList_text h.label.normal).symm, hspells⟩
  · obtain ⟨c, cs, hcs⟩ := List.exists_cons_of_ne_nil hne
    have hc : c ≠ '#' := by
      rintro rfl
      exact h.label.no_sharp (by rw [hcs, List.head?_cons])
    rw [hcs, List.cons_append] at htext
    exact Line.isSignificant_iff.2 ⟨c, _, htext, hc⟩
  · rw [hchars]
    simp [Label.newline_not_mem h.label.normal, hline]

end Definition

/-! ## The whole text -/

theorem Line.isSignificant_ofRaw (n k : Nat) (raw : String) :
    (Line.ofRaw n raw).isSignificant = (Line.ofRaw k raw).isSignificant := by
  simp only [Line.isSignificant, Line.ofRaw]

theorem significantLines_join {raws : List String} (hline : ∀ raw ∈ raws, '\n' ∉ raw.toList)
    (hs : ∀ raw ∈ raws, ∀ n, (Line.ofRaw n raw).isSignificant = true) :
    significantLines (String.join (raws.map (· ++ "\n"))) =
      (raws.zipIdx 1).map fun x => .ofRaw x.2 x.1 := by
  have hlast : ∀ n, (Line.ofRaw n (String.ofList [])).isSignificant = false := by
    intro n
    simp [Line.isSignificant, Line.ofRaw]
  rw [significantLines, numberedLines, pieces_join hline, List.zipIdx_append, List.map_append,
    List.filter_append, List.zipIdx_map, List.map_map]
  have hraws : ((raws.zipIdx 1).map ((fun x => Line.ofRaw x.2 (String.ofList x.1)) ∘
      Prod.map String.toList id)) = (raws.zipIdx 1).map fun x => .ofRaw x.2 x.1 := by
    apply List.map_congr_left
    intro x _
    simp
  have hkeep : ∀ line ∈ (raws.zipIdx 1).map (fun x => Line.ofRaw x.2 x.1),
      line.isSignificant = true := by
    intro line hm
    obtain ⟨x, hx, rfl⟩ := List.mem_map.1 hm
    exact hs x.1 (List.fst_mem_of_mem_zipIdx hx) x.2
  rw [hraws, List.filter_eq_self.2 hkeep]
  simp [hlast]

theorem Definition.forall₂_reads {defs : List (Label × Instruction)}
    (h : ∀ d ∈ defs, Writable d) (width number : Nat) :
    List.Forall₂ Reads
      (((defs.map fun d => Listing.definition width d.1 d.2).zipIdx number).map
        fun (raw, n) => .ofRaw n raw) defs := by
  induction defs generalizing number with
  | nil => exact .nil
  | cons d defs ih =>
      rw [List.map_cons, List.zipIdx_cons, List.map_cons]
      refine .cons (reads_definition (h d List.mem_cons_self) width number).1 ?_
      exact ih (fun e he => h e (List.mem_cons_of_mem d he)) (number + 1)

theorem Listing.text_eq_join (config : Configuration) (defs : List (Label × Instruction)) :
    Listing.text config defs =
      String.join ((config.text :: defs.map fun d =>
        Listing.definition (Listing.width (defs.map (·.1))) d.1 d.2).map (· ++ "\n")) := by
  rw [← String.toList_inj]
  simp [Listing.text, String.toList_join, List.flatMap_map]

namespace Configuration

theorem newline_not_mem_text {config : Configuration}
    (hlabel : '\n' ∉ config.startLabel.text.toList) : '\n' ∉ config.text.toList := by
  have hvalue : ∀ v : Nat, '\n' ∉ (", " ++ v.repr).toList := by
    intro v hm
    rw [String.toList_append, List.mem_append] at hm
    rcases hm with hm | hm
    · exact absurd hm (by decide)
    · exact not_mem_repr (by decide) v hm
  rw [Configuration.text, String.toList_append, String.toList_join, List.mem_append,
    List.flatMap_map, List.mem_flatMap]
  rintro (hm | ⟨v, -, hm⟩)
  · exact hlabel hm
  · exact hvalue v hm

theorem isSignificant_text {config : Configuration} (h : config.Startable) (number : Nat) :
    (Line.ofRaw number config.text).isSignificant = true := by
  have hne : config.startLabel.text.toList ≠ [] := fun hnil =>
    h.ne_empty (String.toList_inj.1 hnil)
  obtain ⟨c, cs, hcs⟩ := List.exists_cons_of_ne_nil hne
  have hword : isWordChar c = true := by
    have hm : c ∈ config.startLabel.text.toList := by simp [hcs]
    rcases h.shape with hd | ⟨hl, -⟩
    · exact isWordChar_of_isDigit (hd c hm)
    · exact (isWordChar_of_letter (hl c hm)).1
  have htext : (Line.ofRaw number config.text).text.toList =
      c :: (cs ++ config.registers.toList.flatMap valueChars) := by
    simp only [Line.ofRaw, toList_normalize]
    rw [normalizeChars_text h.isNormal, hcs, List.cons_append]
  refine Line.isSignificant_iff.2 ⟨c, _, htext, ?_⟩
  rintro rfl
  exact absurd hword (by decide)

end Configuration

namespace Setup

theorem load_join {config : Configuration} (hconfig : config.Startable) {raws : List String}
    (hline : ∀ raw ∈ raws, '\n' ∉ raw.toList)
    (hs : ∀ raw ∈ raws, ∀ n, (Line.ofRaw n raw).isSignificant = true) {p : Program}
    (hp : Program.ofLines ((raws.zipIdx 2).map fun x => .ofRaw x.2 x.1) = .ok p) :
    load (String.join ((config.text :: raws).map (· ++ "\n"))) = .ok ⟨config, p⟩ := by
  have hlabel : '\n' ∉ config.startLabel.text.toList :=
    Label.newline_not_mem (Label.normal_iff.2 hconfig.isNormal)
  have hall : ∀ raw ∈ config.text :: raws, '\n' ∉ raw.toList :=
    List.forall_mem_cons.2 ⟨Configuration.newline_not_mem_text hlabel, hline⟩
  have hallSay : ∀ raw ∈ config.text :: raws, ∀ n, (Line.ofRaw n raw).isSignificant = true :=
    List.forall_mem_cons.2 ⟨Configuration.isSignificant_text hconfig, hs⟩
  have hlines := significantLines_join hall hallSay
  rw [load, ofLines_eq_ok_iff, hlines]
  refine ⟨_, _, rfl, ?_, hp⟩
  simp only [Line.ofRaw, toList_normalize]
  exact Configuration.find?_text hconfig

theorem load_listing_of_writable {s : Setup} (h : s.Writable) :
    ∃ text, s.listing? = some text ∧ load text = .ok s := by
  obtain ⟨hstart, defs, hn, hd, hp⟩ := writable_iff.1 h
  refine ⟨Listing.text s.config defs, ?_, ?_⟩
  · rw [listing?, hp, Program.definitions?_ofDefinitions hn]
    rfl
  · have hline : ∀ raw ∈ defs.map (fun d =>
        Listing.definition (Listing.width (defs.map (·.1))) d.1 d.2),
        '\n' ∉ raw.toList ∧ ∀ n, (Line.ofRaw n raw).isSignificant = true := by
      intro raw hraw
      obtain ⟨d, hm, rfl⟩ := List.mem_map.1 hraw
      have hreads := Definition.reads_definition (hd d hm) (Listing.width (defs.map (·.1)))
      exact ⟨(hreads 0).2.2, fun n => (hreads n).2.1⟩
    rw [Listing.text_eq_join]
    refine load_join hstart (fun raw hraw => (hline raw hraw).1)
      (fun raw hraw => (hline raw hraw).2) ?_
    exact Program.ofLines_eq_ok_iff.2 ⟨defs, Definition.forall₂_reads hd _ 2, hn, hp⟩

/-- **A loaded setup is loaded back from its listing**, with its labels, registers,
table and order, and so listing a listing gives the same text. -/
theorem load_listing {source : String} {s : Setup} (h : load source = .ok s) :
    ∃ text, s.listing? = some text ∧ load text = .ok s
      ∧ Playground.format source = .ok text ∧ Playground.format text = .ok text := by
  obtain ⟨text, hlisting, hload⟩ := load_listing_of_writable (writable_of_load h)
  refine ⟨text, hlisting, hload, ?_, ?_⟩
  · rw [Playground.format, h]
    simp [hlisting]
  · rw [Playground.format, hload]
    simp [hlisting]

/-- A value of more than 64 bits, a label with a comma, a parenthesis and a number
sign, and a target that is empty. -/
theorem load_listing_odd_labels :
    ∃ s, load "x_, 18446744073709551616\nÉ,(#:DEC(r065535), , b#\n\n" = .ok s
      ∧ ∃ text, s.listing? = some text ∧ load text = .ok s
        ∧ Playground.format "x_, 18446744073709551616\nÉ,(#:DEC(r065535), , b#\n\n" = .ok text
        ∧ Playground.format text = .ok text := by
  have h : load "x_, 18446744073709551616\nÉ,(#:DEC(r065535), , b#\n\n" =
      .ok ⟨⟨⟨"x_"⟩, .ofList [18446744073709551616]⟩,
        .ofDefinitions [(⟨"é,(#"⟩, .decrement 65535 ⟨""⟩ ⟨"b#"⟩)]⟩ := by
    decide +kernel
  exact ⟨_, h, load_listing h⟩

/-- **The setups that texts describe are just the writable ones.** -/
theorem exists_load_eq_ok_iff (s : Setup) :
    (∃ source, load source = .ok s) ↔ s.Writable := by
  constructor
  · rintro ⟨source, h⟩
    exact writable_of_load h
  · intro h
    obtain ⟨text, -, hload⟩ := load_listing_of_writable h
    exact ⟨text, hload⟩

end Setup

end CounterMachine
