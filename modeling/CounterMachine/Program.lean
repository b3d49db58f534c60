import CounterMachine.Instruction
import Std.Data.ExtTreeMap

/-!
# Programs

A program is a table of instructions by label together with the order of their
definitions. A program made from definitions has each label once in the table
and once in the order; the two parts of a saved program may disagree, and then
what follows the order may not exist.

`get?_ofDefinitions_of_mem` and `definitions?_ofDefinitions` say that a program
made from definitions with distinct labels has just those definitions.
-/

namespace CounterMachine

theorem mapM_eq_some_map {α β : Type} {f : α → Option β} (g : α → β) {l : List α}
    (h : ∀ a ∈ l, f a = some (g a)) : l.mapM f = some (l.map g) := by
  induction l with
  | nil => rfl
  | cons a l ih =>
    rw [List.mapM_cons, h a List.mem_cons_self, ih fun b hb => h b (List.mem_cons_of_mem a hb)]
    rfl

theorem mapM_map_eq_some {α β : Type} {f : α → β} {g : β → Option α} {l : List α}
    (h : ∀ a ∈ l, g (f a) = some a) : (l.map f).mapM g = some l := by
  have hid : l.mapM (g ∘ f) = some (l.map id) := mapM_eq_some_map id h
  rw [List.mapM_map, hid, List.map_id]

/-- Instructions by label, and the labels in the order of definition. -/
structure Program where
  table : Std.ExtTreeMap Label Instruction
  order : List Label
deriving DecidableEq

namespace Program

def ofDefinitions (defs : List (Label × Instruction)) : Program :=
  ⟨.ofList defs, defs.map (·.1)⟩

def get? (p : Program) (l : Label) : Option Instruction := p.table[l]?

def defines (p : Program) (l : Label) : Bool := p.table.contains l

def size (p : Program) : Nat := p.order.length

def isEmpty (p : Program) : Bool := p.order.isEmpty

/-- The definitions in their order, if the order names defined labels only. -/
def definitions? (p : Program) : Option (List (Label × Instruction)) :=
  p.order.mapM fun l => (p.get? l).map (l, ·)

def highestRegister? (p : Program) : Option Nat :=
  (p.table.toList.filterMap (·.2.register?)).max?

/-- The labels that instructions go to and that have no instruction, each once,
in the order of the definitions that go there. -/
def undefinedTargets? (p : Program) : Option (List Label) :=
  p.definitions?.map fun defs =>
    ((defs.flatMap (·.2.targets)).filter fun l => !p.defines l).eraseDups

def EachRegister (p : Program) (P : Nat → Prop) : Prop :=
  ∀ l i, p.get? l = some i → ∀ r, i.register? = some r → P r

@[simp] theorem order_ofDefinitions (defs : List (Label × Instruction)) :
    (ofDefinitions defs).order = defs.map (·.1) := rfl

@[simp] theorem size_ofDefinitions (defs : List (Label × Instruction)) :
    (ofDefinitions defs).size = defs.length := by
  simp [size]

theorem get?_ofDefinitions_of_mem {defs : List (Label × Instruction)}
    (hn : (defs.map (·.1)).Nodup) {l : Label} {i : Instruction} (h : (l, i) ∈ defs) :
    (ofDefinitions defs).get? l = some i := by
  refine Std.ExtTreeMap.getElem?_ofList_of_mem Std.ReflCmp.compare_self ?_ h
  exact (List.pairwise_map.1 hn).imp fun hab => mt Std.LawfulEqCmp.eq_of_compare hab

theorem get?_ofDefinitions_of_not_mem {defs : List (Label × Instruction)} {l : Label}
    (h : l ∉ defs.map (·.1)) : (ofDefinitions defs).get? l = none := by
  refine Std.ExtTreeMap.getElem?_ofList_of_contains_eq_false ?_
  simpa using h

theorem definitions?_ofDefinitions {defs : List (Label × Instruction)}
    (hn : (defs.map (·.1)).Nodup) : (ofDefinitions defs).definitions? = some defs := by
  apply mapM_map_eq_some
  intro d hd
  rw [get?_ofDefinitions_of_mem hn hd]
  rfl

theorem defines_iff {p : Program} {l : Label} : p.defines l = true ↔ (p.get? l).isSome := by
  simp [defines, get?]

theorem get?_eq_none_iff {p : Program} {l : Label} : p.get? l = none ↔ p.defines l = false := by
  rw [Bool.eq_false_iff, Ne, defines_iff]
  simp

theorem get?_ofDefinitions_eq_some_iff {defs : List (Label × Instruction)}
    (hn : (defs.map (·.1)).Nodup) {l : Label} {i : Instruction} :
    (ofDefinitions defs).get? l = some i ↔ (l, i) ∈ defs := by
  constructor
  · intro h
    by_cases hl : l ∈ defs.map (·.1)
    · obtain ⟨d, hd, rfl⟩ := List.mem_map.1 hl
      rw [get?_ofDefinitions_of_mem hn hd, Option.some.injEq] at h
      rwa [← h]
    · rw [get?_ofDefinitions_of_not_mem hl] at h
      cases h
  · exact get?_ofDefinitions_of_mem hn

theorem defines_ofDefinitions_iff {defs : List (Label × Instruction)}
    (hn : (defs.map (·.1)).Nodup) {l : Label} :
    (ofDefinitions defs).defines l = true ↔ l ∈ defs.map (·.1) := by
  rw [defines_iff, Option.isSome_iff_exists]
  simp [get?_ofDefinitions_eq_some_iff hn]

theorem eachRegister_ofDefinitions_iff {defs : List (Label × Instruction)}
    (hn : (defs.map (·.1)).Nodup) {P : Nat → Prop} :
    (ofDefinitions defs).EachRegister P ↔ ∀ d ∈ defs, ∀ r, d.2.register? = some r → P r := by
  unfold EachRegister
  simp only [get?_ofDefinitions_eq_some_iff hn, Prod.forall]

theorem table_ofDefinitions_toList (t : Std.ExtTreeMap Label Instruction) :
    (ofDefinitions t.toList).table = t := by
  have hn : (t.toList.map (·.1)).Nodup :=
    List.pairwise_map.2 (t.distinct_keys_toList.imp fun h => mt Std.compare_eq_iff_eq.2 h)
  refine Std.ExtTreeMap.ext_getElem? fun l => Option.ext fun i => ?_
  exact (get?_ofDefinitions_eq_some_iff hn).trans
    Std.ExtTreeMap.mem_toList_iff_getElem?_eq_some

theorem exists_eq_ofDefinitions {p : Program} (hn : p.order.Nodup)
    (hd : ∀ l, l ∈ p.order ↔ p.defines l = true) :
    ∃ defs : List (Label × Instruction), (defs.map (·.1)).Nodup ∧ p = ofDefinitions defs := by
  let defs : List (Label × Instruction) := p.order.map fun l => (l, (p.get? l).getD .halt)
  have horder : defs.map (·.1) = p.order := by
    rw [List.map_map]
    exact List.map_id _
  have hnodup : (defs.map (·.1)).Nodup := horder ▸ hn
  have hget : ∀ l, p.get? l = (ofDefinitions defs).get? l := by
    intro l
    by_cases hl : l ∈ p.order
    · have hm : (l, (p.get? l).getD .halt) ∈ defs := List.mem_map_of_mem hl
      obtain ⟨i, hi⟩ := Option.isSome_iff_exists.1 (defines_iff.1 ((hd l).1 hl))
      rw [get?_ofDefinitions_of_mem hnodup hm, hi, Option.getD_some]
    · rw [get?_ofDefinitions_of_not_mem (horder ▸ hl), get?_eq_none_iff, Bool.eq_false_iff]
      exact fun h => hl ((hd l).2 h)
  have htable : p.table = .ofList defs := Std.ExtTreeMap.ext_getElem? hget
  refine ⟨defs, hnodup, ?_⟩
  rw [ofDefinitions, horder, ← htable]

end Program

end CounterMachine
