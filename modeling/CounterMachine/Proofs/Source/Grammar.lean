import CounterMachine.Source.Definition
import Mathlib.Data.List.Forall2

/-!
# The grammar of definitions

What the lines of a program look like, said without reading them.  `Spells` is
the grammar of instructions and `Reads` that of a line with its label; both are
stated by concatenation, so they serve the reader and the listing alike.

* `parseBody_eq_ok_iff`: an instruction is read from just the texts that spell it;
* `ofLines_eq_ok_iff`: lines are a program when each reads as a definition and no
  two of them define one label.
-/

namespace CounterMachine

namespace Definition

open Text

def operandChars (operation : Operation) (digits : List Char) : List Char :=
  operation.name.toList ++ '(' :: 'r' :: (digits ++ [')'])

/-- The texts that spell an instruction: any number of leading zeros may stand
before the register, and a target may be empty. -/
inductive Spells : List Char → Instruction → Prop where
  | halt : Spells ['h', 'a', 'l', 't'] .halt
  | increment {digits next : List Char} {r : Nat} (hd : numeral? digits = some r)
      (hr : r ≤ Registers.highest) (hn : ',' ∉ next) :
      Spells (operandChars .increment digits ++ ',' :: next) (.increment r (.ofChars next))
  | decrement {digits nonzero zero : List Char} {r : Nat} (hd : numeral? digits = some r)
      (hr : r ≤ Registers.highest) (hn : ',' ∉ nonzero) (hz : ',' ∉ zero) :
      Spells (operandChars .decrement digits ++ ',' :: (nonzero ++ ',' :: zero))
        (.decrement r (.ofChars nonzero) (.ofChars zero))

/-- A line reads as a definition: a label that is not empty, a colon, and a text
without a further colon that spells the instruction. -/
def Reads (line : Line) (d : Label × Instruction) : Prop :=
  ∃ name body, line.text.toList = name ++ ':' :: body ∧ name ≠ [] ∧ ':' ∉ name ∧ ':' ∉ body
    ∧ d.1 = .ofChars name ∧ Spells body d.2

/-! ## Operations -/

theorem operand?_eq_some_iff {cs name digits : List Char} :
    operand? cs = some (name, digits) ↔
      cs = name ++ '(' :: 'r' :: (digits ++ [')']) ∧ (name ≠ [] ∧ name.all isWordChar)
        ∧ (digits ≠ [] ∧ digits.all Char.isDigit) := by
  constructor
  · intro h
    unfold operand? at h
    split at h
    · next name' rest hcut =>
      obtain ⟨hcs, -⟩ := cut?_eq_some_iff.1 hcut
      simp only [Option.ite_none_right_eq_some, Option.some.injEq, Prod.mk.injEq] at h
      obtain ⟨⟨hname, hlast, hdigits⟩, rfl, rfl⟩ := h
      obtain ⟨ds, rfl⟩ := List.getLast?_eq_some_iff.1 hlast
      rw [List.dropLast_concat] at hdigits ⊢
      exact ⟨hcs, hname, hdigits⟩
    · cases h
  · rintro ⟨rfl, hname, hdigits⟩
    have hparen : '(' ∉ name := fun h => by
      have hw := List.all_eq_true.1 hname.2 _ h
      exact absurd hw (by decide)
    have hcut : cut? '(' (name ++ '(' :: 'r' :: (digits ++ [')']))
        = some (name, 'r' :: (digits ++ [')'])) := cut?_eq_some_iff.2 ⟨rfl, hparen⟩
    unfold operand?
    rw [hcut]
    simp [hname, hdigits]

theorem build?_eq_some_iff {o : Operation} {r : Nat} {targets : List (List Char)}
    {i : Instruction} :
    build? o r targets = some i ↔
      (∃ next, o = .increment ∧ targets = [next] ∧ i = .increment r (.ofChars next)) ∨
      (∃ nonzero zero, o = .decrement ∧ targets = [nonzero, zero]
        ∧ i = .decrement r (.ofChars nonzero) (.ofChars zero)) := by
  unfold build?
  split <;> simp_all [eq_comm]

theorem parseOperation_eq_ok_iff {line : Line} {cs : List Char} {targets : List (List Char)}
    {i : Instruction} :
    parseOperation line cs targets = .ok i ↔
      ∃ o digits r, cs = operandChars o digits ∧ numeral? digits = some r
        ∧ r ≤ Registers.highest ∧ build? o r targets = some i := by
  constructor
  · intro h
    unfold parseOperation at h
    split at h
    · cases h
    · next name digits hop =>
      split at h
      · cases h
      · next hr =>
        split at h
        · cases h
        · next o ho =>
          split at h
          · next i' hb =>
            cases h
            obtain ⟨rfl, -, hdigits⟩ := operand?_eq_some_iff.1 hop
            rw [Operation.ofName?_eq_some_iff.1 ho]
            exact ⟨o, digits, numeral digits, rfl, numeral?_eq_some_iff.2 ⟨hdigits, rfl⟩,
              Nat.le_of_not_lt hr, hb⟩
          · cases h
  · rintro ⟨o, digits, r, rfl, hd, hr, hb⟩
    obtain ⟨hdigits, rfl⟩ := numeral?_eq_some_iff.1 hd
    have hname : o.name.toList ≠ [] ∧ o.name.toList.all isWordChar = true := by
      cases o <;> decide
    have hop : operand? (operandChars o digits) = some (o.name.toList, digits) :=
      operand?_eq_some_iff.2 ⟨rfl, hname, hdigits⟩
    have ho : Operation.ofName? o.name.toList = some o := Operation.ofName?_eq_some_iff.2 rfl
    unfold parseOperation
    rw [hop]
    simp only
    rw [if_neg (Nat.not_lt.2 hr), ho]
    simp only
    rw [hb]

theorem not_mem_operandChars {o : Operation} {digits : List Char} {r : Nat} {c : Char}
    (hd : numeral? digits = some r) (hdigit : c.isDigit = false)
    (hc : c ∉ ['i', 'n', 'c', 'd', 'e', '(', 'r', ')']) : c ∉ operandChars o digits := by
  have hdigits : c ∉ digits := fun h => by
    have := List.all_eq_true.1 (numeral?_eq_some_iff.1 hd).1.2 c h
    simp [hdigit] at this
  cases o <;> simp_all [operandChars, Operation.name]

theorem parseBody_eq_ok_iff {line : Line} {body : List Char} {i : Instruction} :
    parseBody line body = .ok i ↔ Spells body i := by
  constructor
  · intro h
    unfold parseBody at h
    split at h
    · cases h
    · next operation targets hp =>
      obtain ⟨-, hcomma, hbody⟩ := pieces_eq_iff.1 hp
      split at h
      · next hhalt =>
        obtain ⟨rfl, rfl⟩ := hhalt
        cases h
        rw [hbody]
        exact .halt
      · obtain ⟨o, digits, r, rfl, hd, hr, hb⟩ := parseOperation_eq_ok_iff.1 h
        rcases build?_eq_some_iff.1 hb with
          ⟨next, rfl, rfl, rfl⟩ | ⟨nonzero, zero, rfl, rfl, rfl⟩
        · have hbody' : body = operandChars .increment digits ++ ',' :: next := by
            simpa [List.intercalate] using hbody
          rw [hbody']
          exact .increment hd hr (hcomma next (by simp))
        · have hbody' :
              body = operandChars .decrement digits ++ ',' :: (nonzero ++ ',' :: zero) := by
            simpa [List.intercalate] using hbody
          rw [hbody']
          exact .decrement hd hr (hcomma nonzero (by simp)) (hcomma zero (by simp))
  · intro h
    cases h with
    | halt => rfl
    | @increment digits next r hd hr hn =>
        have hp : pieces ',' (operandChars .increment digits ++ ',' :: next)
            = [operandChars .increment digits, next] := by
          rw [pieces_append_cons (not_mem_operandChars hd (by decide) (by decide)), pieces_eq_singleton hn]
        have hne : ¬ (operandChars .increment digits = ['h', 'a', 'l', 't'] ∧ [next] = []) := by
          simp
        unfold parseBody
        rw [hp]
        simp only
        rw [if_neg hne]
        exact parseOperation_eq_ok_iff.2 ⟨_, digits, r, rfl, hd, hr, rfl⟩
    | @decrement digits nonzero zero r hd hr hn hz =>
        have hp : pieces ',' (operandChars .decrement digits ++ ',' :: (nonzero ++ ',' :: zero))
            = [operandChars .decrement digits, nonzero, zero] := by
          rw [pieces_append_cons (not_mem_operandChars hd (by decide) (by decide)), pieces_append_cons hn,
            pieces_eq_singleton hz]
        have hne : ¬ (operandChars .decrement digits = ['h', 'a', 'l', 't']
            ∧ [nonzero, zero] = []) := by
          simp
        unfold parseBody
        rw [hp]
        simp only
        rw [if_neg hne]
        exact parseOperation_eq_ok_iff.2 ⟨_, digits, r, rfl, hd, hr, rfl⟩

/-! ## Lines -/

theorem splitLabel_eq_ok_iff {line : Line} {label : Label} {body : List Char} :
    splitLabel line = .ok (label, body) ↔
      ∃ name, line.text.toList = name ++ ':' :: body ∧ name ≠ [] ∧ ':' ∉ name ∧ ':' ∉ body
        ∧ label = .ofChars name := by
  constructor
  · intro h
    unfold splitLabel at h
    split at h
    · next name body' hp =>
      obtain ⟨-, hcolon, htext⟩ := pieces_eq_iff.1 hp
      split at h
      · next hne =>
        cases h
        refine ⟨name, ?_, hne, hcolon name (by simp), hcolon body (by simp), rfl⟩
        simpa [List.intercalate] using htext
      · cases h
    · cases h
  · rintro ⟨name, htext, hne, hname, hbody, rfl⟩
    have hp : pieces ':' line.text.toList = [name, body] := by
      rw [htext, pieces_append_cons hname, pieces_eq_singleton hbody]
    unfold splitLabel
    rw [hp]
    exact if_pos hne

theorem reads_iff {line : Line} {d : Label × Instruction} :
    Reads line d ↔
      ∃ body, splitLabel line = .ok (d.1, body) ∧ parseBody line body = .ok d.2 := by
  simp only [Reads, splitLabel_eq_ok_iff, parseBody_eq_ok_iff]
  constructor
  · rintro ⟨name, body, ht, hne, hname, hbody, hl, hs⟩
    exact ⟨body, ⟨name, ht, hne, hname, hbody, hl⟩, hs⟩
  · rintro ⟨body, ⟨name, ht, hne, hname, hbody, hl⟩, hs⟩
    exact ⟨name, body, ht, hne, hname, hbody, hl, hs⟩

theorem exists_reads_of_mem {lines : List Line} {defs : List (Label × Instruction)}
    (h : List.Forall₂ Reads lines defs) {d : Label × Instruction} (hd : d ∈ defs) :
    ∃ line ∈ lines, Reads line d := by
  induction h with
  | nil => cases hd
  | cons hline _ ih =>
      rcases List.mem_cons.1 hd with rfl | hd
      · exact ⟨_, List.mem_cons_self, hline⟩
      · obtain ⟨line, hm, hr⟩ := ih hd
        exact ⟨line, List.mem_cons_of_mem _ hm, hr⟩

theorem getElem?_insert_eq_none_iff {seen : Std.ExtTreeMap Label Nat} {a b : Label} {n : Nat} :
    (seen.insert a n)[b]? = none ↔ a ≠ b ∧ seen[b]? = none := by
  rw [Std.ExtTreeMap.getElem?_insert]
  split <;> simp_all

theorem parseLines_eq_ok_iff {seen : Std.ExtTreeMap Label Nat} {lines : List Line}
    {defs : List (Label × Instruction)} :
    parseLines seen lines = .ok defs ↔
      List.Forall₂ Reads lines defs ∧ (defs.map (·.1)).Nodup
        ∧ ∀ d ∈ defs, seen[d.1]? = none := by
  induction lines generalizing seen defs with
  | nil =>
      rw [parseLines, Except.ok.injEq, List.forall₂_nil_left_iff]
      constructor
      · rintro rfl
        simp
      · rintro ⟨rfl, -⟩
        rfl
  | cons line lines ih =>
      constructor
      · intro h
        unfold parseLines at h
        split at h
        · cases h
        · next label body hsplit =>
          split at h
          · cases h
          · next hnone =>
            split at h
            · cases h
            · next i hbody =>
              split at h
              · cases h
              · next ds hds =>
                cases h
                obtain ⟨hreads, hnodup, hseen⟩ := ih.1 hds
                have hd : ∀ d ∈ ds, label ≠ d.1 ∧ seen[d.1]? = none := fun d hd =>
                  getElem?_insert_eq_none_iff.1 (hseen d hd)
                refine ⟨.cons (reads_iff.2 ⟨body, hsplit, hbody⟩) hreads, ?_, ?_⟩
                · rw [List.map_cons, List.nodup_cons]
                  refine ⟨fun hm => ?_, hnodup⟩
                  obtain ⟨d, hdm, heq⟩ := List.mem_map.1 hm
                  exact (hd d hdm).1 heq.symm
                · intro d hdm
                  rcases List.mem_cons.1 hdm with rfl | hdm
                  · exact hnone
                  · exact (hd d hdm).2
      · rintro ⟨hreads, hnodup, hseen⟩
        cases hreads with
        | @cons _ d _ ds hline hlines =>
            obtain ⟨body, hsplit, hbody⟩ := reads_iff.1 hline
            rw [List.map_cons, List.nodup_cons] at hnodup
            have hnone : seen[d.1]? = none := hseen d List.mem_cons_self
            have hrest : parseLines (seen.insert d.1 line.number) lines = .ok ds := by
              refine ih.2 ⟨hlines, hnodup.2, fun e he => getElem?_insert_eq_none_iff.2 ⟨?_, ?_⟩⟩
              · intro heq
                exact hnodup.1 (heq ▸ List.mem_map_of_mem he)
              · exact hseen e (List.mem_cons_of_mem d he)
            unfold parseLines
            rw [hsplit]
            simp only
            rw [hnone, hbody]
            simp only
            rw [hrest]

end Definition

/-- Lines are a program when each reads as a definition and no label is defined
twice. -/
theorem Program.ofLines_eq_ok_iff {lines : List Line} {p : Program} :
    Program.ofLines lines = .ok p ↔
      ∃ defs, List.Forall₂ Definition.Reads lines defs ∧ (defs.map (·.1)).Nodup
        ∧ p = .ofDefinitions defs := by
  have hempty : ∀ l : Label, (∅ : Std.ExtTreeMap Label Nat)[l]? = none := fun _ => by simp
  rw [Program.ofLines]
  constructor
  · intro h
    cases hp : Definition.parseLines ∅ lines with
    | error e =>
        rw [hp] at h
        cases h
    | ok defs =>
        rw [hp] at h
        cases h
        obtain ⟨hreads, hnodup, -⟩ := Definition.parseLines_eq_ok_iff.1 hp
        exact ⟨defs, hreads, hnodup, rfl⟩
  · rintro ⟨defs, hreads, hnodup, rfl⟩
    rw [Definition.parseLines_eq_ok_iff.2 ⟨hreads, hnodup, fun d _ => hempty d.1⟩]
    rfl

end CounterMachine
