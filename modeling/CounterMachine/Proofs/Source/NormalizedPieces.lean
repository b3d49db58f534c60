import CounterMachine.Proofs.Source.Writable

/-!
# Pieces of normalized lines

The name of a label is normalized twice: with the line that it stands in and again when
the label is made from it.  Normalizing works on one character at a time and leaves what
it gives as it is, so it leaves every piece of a normalized line as it is too, and the
labels that the readers make are the names as they stand in the line.

* `exists_name_of_find?`, `pieces_of_splitLabel` and `pieces_of_parseBody`: where the
  readers cut the names out, in any text;
* `Label.toList_text_of_infix`: the label made from a piece of a normalized text.

Main statement: normalizing is stable under concatenation, repetition and cutting, and the
names cut out of a normalized line are the texts of their labels, `normalize_stable`.
-/

namespace CounterMachine

open Text

/-! ## Where names are cut out -/

theorem Configuration.exists_name_of_find? {inWord : Bool} {cs : List Char}
    {config : Configuration} (h : find? inWord cs = some config) :
    ∃ before name after, cs = before ++ (name ++ after)
      ∧ config = ⟨.ofChars name, .ofList (values after)⟩ := by
  induction cs generalizing inWord with
  | nil => cases h
  | cons c cs ih =>
      rw [find?] at h
      split at h
      · cases h
        exact ⟨[], _, _, List.takeWhile_append_dropWhile.symm, rfl⟩
      · split at h
        · next config' hword =>
          cases h
          cases inWord with
          | true => cases hword
          | false =>
              simp only [Bool.false_eq_true, if_false, atWord?, Option.ite_none_right_eq_some,
                Option.some.injEq] at hword
              exact ⟨[], _, _, List.takeWhile_append_dropWhile.symm, hword.2.symm⟩
        · obtain ⟨before, name, after, rfl, hconfig⟩ := ih h
          exact ⟨c :: before, name, after, rfl, hconfig⟩

namespace Definition

variable {line : Line} {label : Label} {body : List Char} {i : Instruction}

theorem pieces_of_splitLabel (h : splitLabel line = .ok (label, body)) :
    ∃ name, pieces ':' line.text.toList = [name, body] ∧ label = .ofChars name := by
  obtain ⟨name, htext, -, hname, hbody, hlabel⟩ := splitLabel_eq_ok_iff.1 h
  refine ⟨name, ?_, hlabel⟩
  rw [htext, pieces_append_cons hname, pieces_eq_singleton hbody]

theorem pieces_of_parseBody (h : parseBody line body = .ok i) :
    ∃ operation names, pieces ',' body = operation :: names
      ∧ i.targets = names.map Label.ofChars := by
  unfold parseBody at h
  split at h
  · cases h
  · next operation names hpieces =>
    refine ⟨operation, names, hpieces, ?_⟩
    split at h
    · next hhalt =>
      cases h
      rw [hhalt.2]
      rfl
    · obtain ⟨o, digits, r, -, -, -, hbuild⟩ := parseOperation_eq_ok_iff.1 h
      rcases build?_eq_some_iff.1 hbuild with
        ⟨next, -, rfl, rfl⟩ | ⟨nonzero, zero, -, rfl, rfl⟩ <;> rfl

end Definition

/-! ## Names of a normalized line -/

theorem Label.toList_text_of_infix {p cs : List Char} (h : p <:+: normalizeChars cs) :
    (ofChars p).text.toList = p :=
  toList_text_ofChars fun _ hc => isNormal_of_mem_normalizeChars (h.subset hc)

theorem Label.text_ofName_of_infix {s p : String} (h : p.toList <:+: (normalize s).toList) :
    (ofName p).text = p := by
  rw [toList_normalize] at h
  rw [← String.toList_inj, ofName_eq_ofChars, toList_text_of_infix h]

section Line

variable {n : Nat} {raw : String}

theorem Line.toList_text_ofRaw (n : Nat) (raw : String) :
    (ofRaw n raw).text.toList = normalizeChars raw.toList :=
  toList_normalize raw

theorem Configuration.text_of_ofRaw {config : Configuration}
    (h : ofLine (.ofRaw n raw) = .ok config) :
    ∃ before after, (Line.ofRaw n raw).text.toList
        = before ++ (config.startLabel.text.toList ++ after)
      ∧ config.registers = .ofList (values after) := by
  obtain ⟨before, name, after, hcs, rfl⟩ := exists_name_of_find? (ofLine_eq_ok_iff.1 h)
  have hname : name <:+: normalizeChars raw.toList := by
    rw [← Line.toList_text_ofRaw n, hcs, ← List.append_assoc]
    exact List.infix_append before name after
  refine ⟨before, after, ?_, rfl⟩
  rw [Label.toList_text_of_infix hname, hcs]

namespace Definition

variable {label : Label} {body : List Char} {i : Instruction}

theorem pieces_ofRaw (h : splitLabel (.ofRaw n raw) = .ok (label, body)) :
    pieces ':' (Line.ofRaw n raw).text.toList = [label.text.toList, body] := by
  obtain ⟨name, hpieces, rfl⟩ := pieces_of_splitLabel h
  have hname : name <:+: normalizeChars raw.toList := by
    rw [← Line.toList_text_ofRaw n]
    exact infix_of_mem_pieces (hpieces ▸ List.mem_cons_self)
  rw [hpieces, Label.toList_text_of_infix hname]

theorem targets_ofRaw (h : splitLabel (.ofRaw n raw) = .ok (label, body))
    (hi : parseBody (.ofRaw n raw) body = .ok i) :
    ∃ operation, pieces ',' body = operation :: i.targets.map (·.text.toList) := by
  have hbody : body <:+: normalizeChars raw.toList := by
    rw [← Line.toList_text_ofRaw n]
    exact infix_of_mem_pieces (pieces_ofRaw h ▸ List.mem_cons_of_mem _ List.mem_cons_self)
  obtain ⟨operation, names, hpieces, htargets⟩ := pieces_of_parseBody hi
  have hnames : ∀ p ∈ names, (Label.ofChars p).text.toList = p := fun p hp =>
    Label.toList_text_of_infix
      ((infix_of_mem_pieces (hpieces ▸ List.mem_cons_of_mem operation hp)).trans hbody)
  have hmap : names.map (fun p => (Label.ofChars p).text.toList) = names := by
    rw [List.map_congr_left hnames, List.map_id']
  refine ⟨operation, ?_⟩
  rw [hpieces, htargets, List.map_map]
  exact congrArg _ hmap.symm

end Definition

end Line

/-- **Normalizing is stable under what the readers do.**  It goes along with concatenation,
changes nothing the second time, and leaves alone every name that is a piece of a
normalized text.  So a configuration read off a normalized line has its start label
written there, with the values after it; the label of a definition is written before the
colon; and the targets of its instruction are written after the operation, with commas
between them. -/
theorem normalize_stable :
    (∀ a b, normalize (a ++ b) = normalize a ++ normalize b)
      ∧ (∀ a, normalize (normalize a) = normalize a)
      ∧ (∀ s p : String, p.toList <:+: (normalize s).toList → (Label.ofName p).text = p)
      ∧ ∀ n raw,
          (∀ config, Configuration.ofLine (.ofRaw n raw) = .ok config →
            ∃ before after, (Line.ofRaw n raw).text.toList
                = before ++ (config.startLabel.text.toList ++ after)
              ∧ config.registers = .ofList (Configuration.values after))
          ∧ ∀ label body, Definition.splitLabel (.ofRaw n raw) = .ok (label, body) →
              pieces ':' (Line.ofRaw n raw).text.toList = [label.text.toList, body]
                ∧ ∀ i, Definition.parseBody (.ofRaw n raw) body = .ok i →
                    ∃ operation,
                      pieces ',' body = operation :: i.targets.map (·.text.toList) :=
  ⟨normalize_append, normalize_normalize, fun _ _ => Label.text_ofName_of_infix, fun _ _ =>
    ⟨fun _ => Configuration.text_of_ofRaw, fun _ _ h =>
      ⟨Definition.pieces_ofRaw h, fun _ => Definition.targets_ofRaw h⟩⟩⟩

/-- Capitals that are lowered to two characters, or away from the end of a word to one
that stands only at its end, are named the same in the line and in the label. -/
theorem normalize_stable_capitals :
    let config : Configuration := ⟨⟨"go_"⟩, .ofList [2]⟩
    let i : Instruction := .decrement 0 ⟨"σσ"⟩ ⟨"ς"⟩
    normalize "İ A: Dec(R0), ΣΣ, ς" = "i\u0307a:dec(r0),σσ,ς"
      ∧ (Label.ofName "i\u0307a").text = "i\u0307a"
      ∧ Configuration.ofLine (.ofRaw 1 "Σ Go_, 2") = .ok config
      ∧ (∃ before after, (Line.ofRaw 1 "Σ Go_, 2").text.toList
            = before ++ (config.startLabel.text.toList ++ after)
          ∧ config.registers = .ofList (Configuration.values after))
      ∧ Definition.splitLabel (.ofRaw 2 "İ A: Dec(R0), ΣΣ, ς")
          = .ok (⟨"i\u0307a"⟩, "dec(r0),σσ,ς".toList)
      ∧ pieces ':' (Line.ofRaw 2 "İ A: Dec(R0), ΣΣ, ς").text.toList
          = ["i\u0307a".toList, "dec(r0),σσ,ς".toList]
      ∧ Definition.parseBody (.ofRaw 2 "İ A: Dec(R0), ΣΣ, ς") "dec(r0),σσ,ς".toList = .ok i
      ∧ ∃ operation, pieces ',' "dec(r0),σσ,ς".toList
          = operation :: i.targets.map (·.text.toList) := by
  intro config i
  have hnormal : normalize "İ A: Dec(R0), ΣΣ, ς" = "i\u0307a:dec(r0),σσ,ς" := by
    decide +kernel
  have hinfix : "i\u0307a".toList <:+: (normalize "İ A: Dec(R0), ΣΣ, ς").toList := by
    decide +kernel
  have hconfig : Configuration.ofLine (.ofRaw 1 "Σ Go_, 2") = .ok config := by decide +kernel
  have hlabel : Definition.splitLabel (.ofRaw 2 "İ A: Dec(R0), ΣΣ, ς")
      = .ok (⟨"i\u0307a"⟩, "dec(r0),σσ,ς".toList) := by decide +kernel
  have hbody : Definition.parseBody (.ofRaw 2 "İ A: Dec(R0), ΣΣ, ς") "dec(r0),σσ,ς".toList
      = .ok i := by decide +kernel
  obtain ⟨-, -, hname, hline⟩ := normalize_stable
  have hsplit := (hline 2 "İ A: Dec(R0), ΣΣ, ς").2 _ _ hlabel
  exact ⟨hnormal, hname _ _ hinfix, hconfig, (hline 1 "Σ Go_, 2").1 _ hconfig, hlabel,
    hsplit.1, hbody, hsplit.2 _ hbody⟩

end CounterMachine
