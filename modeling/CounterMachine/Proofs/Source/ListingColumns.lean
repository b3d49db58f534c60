import CounterMachine.Proofs.Source.ListingRoundTrip

/-!
# The columns of a listing

The heads of a listing, which are labels with their colons, are padded to a number of
characters that is taken from the bytes of the longest label.  A text has no more
characters than bytes, so no head is longer than that and all instructions begin in one
column, whatever the labels are.

* `length_le_utf8ByteSize`: characters take at least a byte each;
* `width_eq`: the width of the heads, by the longest label;
* `inColumn_definition`: a head that is not too long ends before the column.

Main statement: the lines of a listing after the first are the heads and instructions of
the program with the instructions in one column, `listing_columns`.
-/

namespace CounterMachine

open Text

theorem length_le_utf8ByteSize (s : String) : s.length ≤ s.utf8ByteSize := by
  have hchars : ∀ cs : List Char, cs.length ≤ (String.ofList cs).utf8ByteSize := by
    intro cs
    induction cs with
    | nil => exact Nat.zero_le _
    | cons c cs ih =>
        have hc : 0 < c.utf8Size := c.utf8Size_pos
        rw [String.ofList_cons, String.utf8ByteSize_append, String.utf8ByteSize_singleton,
          List.length_cons]
        omega
  have h := hchars s.toList
  rwa [String.ofList_toList, String.length_toList] at h

namespace Listing

def longest (labels : List Label) : Nat := (labels.map (·.text.utf8ByteSize)).max?.getD 0

theorem width_eq (labels : List Label) : width labels = longest labels + 1 := by
  have hfold : labels.foldr (fun l w => max l.text.utf8ByteSize w) 0 = longest labels := by
    induction labels with
    | nil => rfl
    | cons l labels ih =>
        rw [List.foldr_cons, ih, longest, longest, List.map_cons, List.max?_cons]
        cases (labels.map (·.text.utf8ByteSize)).max? with
        | none => exact Nat.max_zero _
        | some _ => rfl
  rw [width, hfold]

theorem length_head (l : Label) : (l.text ++ ":").length = l.text.length + 1 := by
  rw [String.length_append]
  rfl

theorem length_head_le {labels : List Label} {l : Label} (hl : l ∈ labels) :
    (l.text ++ ":").length ≤ width labels := by
  have hbytes : l.text.length ≤ l.text.utf8ByteSize := length_le_utf8ByteSize l.text
  have hlongest : l.text.utf8ByteSize ≤ longest labels :=
    List.le_max?_getD_of_mem (List.mem_map_of_mem (f := (·.text.utf8ByteSize)) hl)
  rw [width_eq, length_head]
  omega

/-- A line has a label with its colon and at least one blank before a column, and the text
of an instruction from the column on. -/
structure InColumn (column : Nat) (line : List Char) (d : Label × Instruction) : Prop where
  head : ∃ n, line.take column = d.1.text.toList ++ ':' :: List.replicate (n + 1) ' '
  instruction : line.drop column = d.2.text.toList

theorem inColumn_definition {width : Nat} {d : Label × Instruction}
    (h : (d.1.text ++ ":").length ≤ width) :
    InColumn (width + 1) (definition width d.1 d.2).toList d := by
  have hline : (definition width d.1 d.2).toList =
      (d.1.text.toList ++ ':' :: List.replicate (width - (d.1.text ++ ":").length + 1) ' ')
        ++ d.2.text.toList := by
    rw [Definition.toList_definition, List.replicate_succ']
    simp only [List.append_assoc, List.cons_append, List.nil_append]
  have hlength : (d.1.text.toList ++ ':' ::
      List.replicate (width - (d.1.text ++ ":").length + 1) ' ').length = width + 1 := by
    rw [length_head] at h ⊢
    simp only [List.length_append, List.length_cons, List.length_replicate, String.length_toList]
    omega
  rw [hline]
  exact ⟨⟨_, List.take_left' hlength⟩, List.drop_left' hlength⟩

end Listing

/-! ## The lines -/

theorem Instruction.newline_not_mem_text {i : Instruction}
    (h : ∀ t ∈ i.targets, '\n' ∉ t.text.toList) : '\n' ∉ i.text.toList := by
  have hrepr : ∀ r : Nat, '\n' ∉ r.repr.toList := not_mem_repr (by decide)
  cases i with
  | halt => decide
  | increment r next =>
      have hnext : '\n' ∉ next.text.toList := h next List.mem_cons_self
      simpa [text, hnext] using hrepr r
  | decrement r nonzero zero =>
      have hnonzero : '\n' ∉ nonzero.text.toList := h nonzero List.mem_cons_self
      have hzero : '\n' ∉ zero.text.toList :=
        h zero (List.mem_cons_of_mem nonzero List.mem_cons_self)
      simpa [text, hnonzero, hzero] using hrepr r

theorem Program.exists_definitions? {p : Program} (h : ∀ l ∈ p.order, p.defines l = true) :
    ∃ defs, p.definitions? = some defs ∧ defs.map (·.1) = p.order
      ∧ ∀ d ∈ defs, p.get? d.1 = some d.2 := by
  have hget : ∀ l ∈ p.order, p.get? l = some ((p.get? l).getD .halt) := by
    intro l hl
    obtain ⟨i, hi⟩ := Option.isSome_iff_exists.1 (defines_iff.1 (h l hl))
    rw [hi, Option.getD_some]
  refine ⟨p.order.map fun l => (l, (p.get? l).getD .halt), ?_, ?_, fun d hd => ?_⟩
  · apply mapM_eq_some_map
    intro l hl
    rw [hget l hl, Option.map_some, Option.getD_some]
  · rw [List.map_map]
    exact List.map_id _
  · obtain ⟨l, hl, rfl⟩ := List.mem_map.1 hd
    exact hget l hl

/-- **The instructions of a listing stand in one column.**  If the order of a program names
defined labels only and no label or target holds a line feed, the listing is cut at its
line feeds into the configuration and a line for each place of the order, which has the
label with its colon, at least one blank, and the instruction two characters past the bytes
of the longest label.  So no label with its colon is longer than it is padded to. -/
theorem Setup.listing_columns {setup : Setup}
    (hdefined : ∀ l ∈ setup.program.order, setup.program.defines l = true)
    (hstart : '\n' ∉ setup.config.startLabel.text.toList)
    (hlabels : ∀ l ∈ setup.program.order, '\n' ∉ l.text.toList)
    (htargets : ∀ l ∈ setup.program.order, ∀ i, setup.program.get? l = some i →
      ∀ t ∈ i.targets, '\n' ∉ t.text.toList) :
    ∃ text lines, setup.listing? = some text
      ∧ pieces '\n' text.toList = setup.config.text.toList :: (lines ++ [[]])
      ∧ List.Forall₂ (fun line l => ∃ i, setup.program.get? l = some i
          ∧ Listing.InColumn (Listing.longest setup.program.order + 2) line (l, i))
          lines setup.program.order
      ∧ ∀ l ∈ setup.program.order,
          (l.text ++ ":").length ≤ Listing.width setup.program.order := by
  obtain ⟨defs, hdefs, horder, hget⟩ := Program.exists_definitions? hdefined
  have hmem : ∀ d ∈ defs, d.1 ∈ setup.program.order := fun d hd =>
    horder ▸ List.mem_map_of_mem (f := (·.1)) hd
  have hline : ∀ d ∈ defs,
      '\n' ∉ (Listing.definition (Listing.width setup.program.order) d.1 d.2).toList := by
    intro d hd
    have hlabel := hlabels d.1 (hmem d hd)
    have htext := Instruction.newline_not_mem_text (htargets d.1 (hmem d hd) d.2 (hget d hd))
    rw [Definition.toList_definition]
    simp [hlabel, htext]
  have hall : ∀ raw ∈ setup.config.text :: defs.map (fun d =>
      Listing.definition (Listing.width setup.program.order) d.1 d.2), '\n' ∉ raw.toList :=
    List.forall_mem_cons.2
      ⟨Configuration.newline_not_mem_text hstart, List.forall_mem_map.2 hline⟩
  refine ⟨Listing.text setup.config defs, defs.map fun d =>
    (Listing.definition (Listing.width setup.program.order) d.1 d.2).toList,
    ?_, ?_, ?_, fun l => Listing.length_head_le⟩
  · rw [listing?, hdefs, Option.map_some]
  · rw [Listing.text_eq_join, horder, pieces_join hall, List.map_cons, List.map_map]
    rfl
  · rw [← horder, List.forall₂_map_left_iff, List.forall₂_map_right_iff, List.forall₂_same]
    intro d hd
    have hcolumn : Listing.longest (defs.map (·.1)) + 2 = Listing.width (defs.map (·.1)) + 1 := by
      rw [Listing.width_eq]
    refine ⟨d.2, hget d hd, ?_⟩
    rw [hcolumn, horder]
    exact Listing.inColumn_definition (Listing.length_head_le (hmem d hd))

/-- Of two labels the one with fewer characters has more bytes, and it makes the column.
The order names one of them twice, and the listing has a line for each place. -/
theorem Setup.listing_columns_bytes :
    let program : Program := .ofDefinitions [(⟨"loop"⟩, .decrement 0 ⟨"𝄞é"⟩ ⟨"ß"⟩), (⟨"𝄞é"⟩, .halt)]
    let setup : Setup :=
      ⟨⟨⟨"b"⟩, .ofList [1]⟩, { program with order := [⟨"loop"⟩, ⟨"𝄞é"⟩, ⟨"loop"⟩] }⟩
    let text := "b, 1\nloop:   dec(r0), 𝄞é, ß\n𝄞é:     halt\nloop:   dec(r0), 𝄞é, ß\n"
    setup.listing? = some text ∧ Listing.longest setup.program.order = 6
      ∧ (∀ l ∈ setup.program.order, setup.program.defines l = true)
      ∧ '\n' ∉ setup.config.startLabel.text.toList
      ∧ (∀ l ∈ setup.program.order, '\n' ∉ l.text.toList)
      ∧ (∀ l ∈ setup.program.order, ∀ i, setup.program.get? l = some i →
          ∀ t ∈ i.targets, '\n' ∉ t.text.toList)
      ∧ ∃ lines, pieces '\n' text.toList = "b, 1".toList :: (lines ++ [[]])
          ∧ List.Forall₂ (fun line l => ∃ i, setup.program.get? l = some i
              ∧ Listing.InColumn 8 line (l, i)) lines setup.program.order := by
  intro program setup text
  have htext : setup.listing? = some text := by decide +kernel
  have hlongest : Listing.longest setup.program.order = 6 := by decide +kernel
  have hdefined : ∀ l ∈ setup.program.order, setup.program.defines l = true := by decide +kernel
  have hstart : '\n' ∉ setup.config.startLabel.text.toList := by decide +kernel
  have hlabels : ∀ l ∈ setup.program.order, '\n' ∉ l.text.toList := by decide +kernel
  have htargets : ∀ l ∈ setup.program.order, ∀ i ∈ setup.program.get? l,
      ∀ t ∈ i.targets, '\n' ∉ t.text.toList := by decide +kernel
  have hconfig : setup.config.text.toList = "b, 1".toList := by decide +kernel
  obtain ⟨found, lines, hfound, hpieces, hlines, -⟩ :=
    listing_columns hdefined hstart hlabels htargets
  cases Option.some.inj (hfound.symm.trans htext)
  rw [hconfig] at hpieces
  rw [hlongest] at hlines
  exact ⟨htext, hlongest, hdefined, hstart, hlabels, htargets, lines, hpieces, hlines⟩

end CounterMachine
