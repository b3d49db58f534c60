/-!
# Cutting a text at a character

`pieces` cuts at every occurrence of a separator and `cut?` at the first one.
Joining the pieces with the separator gives the text back, and no piece holds
the separator.
-/

namespace CounterMachine.Text

/-- The pieces of a text between the occurrences of a separator. A text
without the separator is its own single piece. -/
def pieces (sep : Char) (cs : List Char) : List (List Char) :=
  cs.foldr (fun c ps =>
    if c = sep then [] :: ps
    else match ps with
      | [] => [[c]]
      | p :: ps => (c :: p) :: ps) [[]]

/-- The text before the first separator and the text after it. -/
def cut? (sep : Char) : List Char → Option (List Char × List Char)
  | [] => none
  | c :: cs => if c = sep then some ([], cs) else (cut? sep cs).map fun (a, b) => (c :: a, b)

@[simp] theorem pieces_nil (sep : Char) : pieces sep [] = [[]] := rfl

theorem pieces_cons (sep c : Char) (cs : List Char) :
    pieces sep (c :: cs) =
      if c = sep then [] :: pieces sep cs
      else match pieces sep cs with
        | [] => [[c]]
        | p :: ps => (c :: p) :: ps := rfl

theorem pieces_ne_nil (sep : Char) (cs : List Char) : pieces sep cs ≠ [] := by
  cases cs with
  | nil => simp
  | cons c cs =>
    rw [pieces_cons]
    split
    · simp
    · split <;> simp

theorem pieces_eq_singleton {sep : Char} {cs : List Char} (h : sep ∉ cs) :
    pieces sep cs = [cs] := by
  induction cs with
  | nil => rfl
  | cons c cs ih =>
    simp only [List.mem_cons, not_or] at h
    rw [pieces_cons, if_neg (Ne.symm h.1), ih h.2]

theorem pieces_append_separator (sep : Char) (as bs : List Char) :
    pieces sep (as ++ sep :: bs) = pieces sep as ++ pieces sep bs := by
  induction as with
  | nil => rw [List.nil_append, pieces_cons, if_pos rfl, pieces_nil, List.singleton_append]
  | cons a as ih =>
    rw [List.cons_append, pieces_cons, pieces_cons, ih]
    split
    · rfl
    · cases h : pieces sep as with
      | nil => exact absurd h (pieces_ne_nil sep as)
      | cons p ps => rfl

theorem pieces_append_cons {sep : Char} {as : List Char} (h : sep ∉ as) (bs : List Char) :
    pieces sep (as ++ sep :: bs) = as :: pieces sep bs := by
  rw [pieces_append_separator, pieces_eq_singleton h, List.singleton_append]

theorem length_pieces (sep : Char) (cs : List Char) :
    (pieces sep cs).length = cs.count sep + 1 := by
  induction cs with
  | nil => rfl
  | cons c cs ih =>
    rw [pieces_cons, List.count_cons]
    split
    · next hc => simp [hc, ih]
    · next hc =>
      cases hp : pieces sep cs with
      | nil => exact absurd hp (pieces_ne_nil sep cs)
      | cons p ps =>
        rw [hp] at ih
        simpa [hc] using ih

theorem pieces_flatMap_terminated {sep : Char} {ps : List (List Char)} (h : ∀ p ∈ ps, sep ∉ p) :
    pieces sep (ps.flatMap (· ++ [sep])) = ps ++ [[]] := by
  induction ps with
  | nil => rfl
  | cons p ps ih =>
    have hp : sep ∉ p := h p List.mem_cons_self
    rw [List.flatMap_cons, List.append_assoc, List.singleton_append, pieces_append_cons hp,
      ih fun q hq => h q (List.mem_cons_of_mem p hq), List.cons_append]

theorem pieces_join {raws : List String} (hline : ∀ raw ∈ raws, '\n' ∉ raw.toList) :
    pieces '\n' (String.join (raws.map (· ++ "\n"))).toList =
      raws.map String.toList ++ [[]] := by
  have hchars : (String.join (raws.map (· ++ "\n"))).toList =
      (raws.map String.toList).flatMap (· ++ ['\n']) := by
    simp [String.toList_join, List.flatMap_map]
  rw [hchars]
  apply pieces_flatMap_terminated
  intro p hp
  obtain ⟨raw, hraw, rfl⟩ := List.mem_map.1 hp
  exact hline raw hraw

theorem not_mem_of_mem_pieces {sep : Char} {cs p : List Char} (h : p ∈ pieces sep cs) :
    sep ∉ p := by
  induction cs generalizing p with
  | nil => simp_all
  | cons c cs ih =>
    rw [pieces_cons] at h
    split at h
    · rcases List.mem_cons.1 h with rfl | h
      · simp
      · exact ih h
    · next hc =>
      split at h
      · simp_all [Ne.symm]
      · next q qs hq =>
        rcases List.mem_cons.1 h with rfl | h
        · have := ih (hq ▸ List.mem_cons_self)
          simp only [List.mem_cons, not_or]
          exact ⟨Ne.symm hc, this⟩
        · exact ih (hq ▸ List.mem_cons_of_mem _ h)

theorem intercalate_pieces (sep : Char) (cs : List Char) :
    [sep].intercalate (pieces sep cs) = cs := by
  induction cs with
  | nil => rfl
  | cons c cs ih =>
    rw [pieces_cons]
    split
    · next hc =>
      subst hc
      cases hp : pieces c cs with
      | nil => exact absurd hp (pieces_ne_nil c cs)
      | cons p ps => rw [hp] at ih; simp [List.intercalate, ← ih]
    · cases hp : pieces sep cs with
      | nil => exact absurd hp (pieces_ne_nil sep cs)
      | cons p ps =>
        rw [hp] at ih
        cases ps <;> simp_all [List.intercalate]

theorem infix_intercalate (sep : Char) {ps : List (List Char)} {p : List Char} (h : p ∈ ps) :
    p <:+: [sep].intercalate ps := by
  induction ps with
  | nil => cases h
  | cons q qs ih =>
    cases qs with
    | nil =>
      obtain rfl := List.mem_singleton.1 h
      simp [List.intercalate]
    | cons r rs =>
      have hcons : [sep].intercalate (q :: r :: rs) = q ++ sep :: [sep].intercalate (r :: rs) := by
        simp [List.intercalate]
      rw [hcons]
      rcases List.mem_cons.1 h with rfl | h
      · exact (List.prefix_append p _).isInfix
      · exact ((ih h).trans (List.suffix_cons sep _).isInfix).trans
          (List.suffix_append q _).isInfix

theorem mem_of_mem_intercalate {sep : List Char} {ps : List (List Char)} {c : Char}
    (h : c ∈ sep.intercalate ps) : c ∈ sep ∨ ∃ p ∈ ps, c ∈ p := by
  induction ps with
  | nil => cases h
  | cons p ps ih =>
    cases ps with
    | nil =>
      rw [List.intercalate_singleton] at h
      exact Or.inr ⟨p, List.mem_cons_self, h⟩
    | cons q qs =>
      rw [List.intercalate_cons_cons, List.mem_append, List.mem_append] at h
      rcases h with (h | h) | h
      · exact Or.inr ⟨p, List.mem_cons_self, h⟩
      · exact Or.inl h
      · exact (ih h).imp_right fun ⟨r, hr, hc⟩ => ⟨r, List.mem_cons_of_mem p hr, hc⟩

theorem infix_of_mem_pieces {sep : Char} {cs p : List Char} (h : p ∈ pieces sep cs) :
    p <:+: cs := by
  rw [← intercalate_pieces sep cs]
  exact infix_intercalate sep h

/-- The pieces of a text are the only ones that give it and lack the separator. -/
theorem pieces_eq_iff {sep : Char} {cs : List Char} {ps : List (List Char)} :
    pieces sep cs = ps ↔
      ps ≠ [] ∧ (∀ p ∈ ps, sep ∉ p) ∧ cs = [sep].intercalate ps := by
  constructor
  · rintro rfl
    exact ⟨pieces_ne_nil sep cs, fun _ => not_mem_of_mem_pieces, (intercalate_pieces sep cs).symm⟩
  · rintro ⟨hne, hsep, rfl⟩
    induction ps with
    | nil => exact absurd rfl hne
    | cons p ps ih =>
      have hp : sep ∉ p := hsep p List.mem_cons_self
      cases ps with
      | nil => simpa [List.intercalate] using pieces_eq_singleton hp
      | cons q qs =>
        have hq := ih (List.cons_ne_nil q qs) fun r hr => hsep r (List.mem_cons_of_mem p hr)
        have hcs : [sep].intercalate (p :: q :: qs) = p ++ sep :: [sep].intercalate (q :: qs) := by
          simp [List.intercalate]
        rw [hcs, pieces_append_cons hp, hq]

theorem cut?_eq_some_iff {sep : Char} {cs as bs : List Char} :
    cut? sep cs = some (as, bs) ↔ cs = as ++ sep :: bs ∧ sep ∉ as := by
  induction cs generalizing as with
  | nil => simp [cut?]
  | cons c cs ih =>
    rw [cut?]
    split
    · next hc =>
      subst hc
      constructor
      · rintro h
        simp only [Option.some.injEq, Prod.mk.injEq] at h
        simp [← h.1, ← h.2]
      · rintro ⟨h, hm⟩
        cases as with
        | nil => simpa using h
        | cons a as => simp_all
    · next hc =>
      cases as with
      | nil => simp_all
      | cons a as =>
        simp only [Option.map_eq_some_iff, Prod.mk.injEq, Prod.exists, List.cons.injEq,
          List.cons_append, List.mem_cons, not_or]
        constructor
        · rintro ⟨as', bs', h, ⟨rfl, rfl⟩, rfl⟩
          exact ⟨⟨rfl, (ih.1 h).1⟩, Ne.symm hc, (ih.1 h).2⟩
        · rintro ⟨⟨rfl, rfl⟩, -, h⟩
          exact ⟨as, bs, ih.2 ⟨rfl, h⟩, ⟨rfl, rfl⟩, rfl⟩

theorem eq_of_first_separator {sep : Char} {as bs xs ys : List Char} (ha : sep ∉ as)
    (hb : sep ∉ bs) (h : as ++ sep :: xs = bs ++ sep :: ys) : as = bs ∧ xs = ys := by
  have hcut : cut? sep (as ++ sep :: xs) = some (as, xs) := cut?_eq_some_iff.2 ⟨rfl, ha⟩
  rw [cut?_eq_some_iff.2 ⟨h, hb⟩] at hcut
  have hparts := Prod.mk.inj (Option.some.inj hcut)
  exact ⟨hparts.1.symm, hparts.2.symm⟩

theorem eq_of_last_separator {sep : Char} {as bs xs ys : List Char} (hx : sep ∉ xs)
    (hy : sep ∉ ys) (h : as ++ sep :: xs = bs ++ sep :: ys) : as = bs ∧ xs = ys := by
  have hreverse : xs.reverse ++ sep :: as.reverse = ys.reverse ++ sep :: bs.reverse := by
    simpa using congrArg List.reverse h
  obtain ⟨hxs, has⟩ := eq_of_first_separator (by simpa using hx) (by simpa using hy) hreverse
  exact ⟨List.reverse_inj.1 has, List.reverse_inj.1 hxs⟩

theorem span_append {p : Char → Bool} {cs rest : List Char} (hcs : ∀ c ∈ cs, p c = true)
    (hrest : ∀ c ∈ rest.head?, p c = false) :
    (cs ++ rest).takeWhile p = cs ∧ (cs ++ rest).dropWhile p = rest := by
  rw [List.takeWhile_append_of_pos hcs, List.dropWhile_append_of_pos hcs]
  cases rest with
  | nil => simp
  | cons c rest => simp [hrest c rfl]

theorem span_append_cons {p : Char → Bool} {c : Char} (hc : p c = false)
    (as bs : List Char) :
    (as ++ c :: bs).takeWhile p = as.takeWhile p
      ∧ (as ++ c :: bs).dropWhile p = as.dropWhile p ++ c :: bs := by
  induction as with
  | nil => simp [hc]
  | cons a as ih => by_cases ha : p a = true <;> simp [ha, ih]

end CounterMachine.Text
