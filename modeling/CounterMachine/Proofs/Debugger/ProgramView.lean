import CounterMachine.Proofs.Debugger.RegisterView
import CounterMachine.Proofs.Source.Writable

/-!
# The program view

The list of the program has room for some of its definitions.  The window begins half its
height above the definition at the current label, or with the first definition, so that
the current one is always inside, `exists_window`.  It is marked once because a loaded
program defines no label twice.

* `programList_eq`: the items are the texts of a window into the definitions;
* `filter_window_of_defined`: the one definition at the current label is in the window;
* `Shows`: what items say of the program, of the label and of the breakpoints.

Main statement: whatever has been done with the debugger, its list shows the program
where the machine is, `program_shown`.
-/

namespace CounterMachine

namespace Debugger

/-- The debuggers that acts and keys lead to, in any order. -/
inductive Reached (setup : Setup) : Debugger → Prop
  | start : Reached setup (ofSetup setup)
  | perform {d : Debugger} (h : Reached setup d) (act : Act) : Reached setup (d.perform act)
  | press {d : Debugger} (h : Reached setup d) (key : Key) : Reached setup (d.press key)

theorem Reached.onRun {setup : Setup} {d : Debugger} (h : Reached setup d) : OnRun setup d := by
  induction h with
  | start => exact onRun_ofSetup setup
  | perform _ act ih => exact ih.perform act
  | press _ key ih => exact ih.press key

/-! ## Items -/

variable {d : Debugger} {defs : List (Label × Instruction)}

def itemText (d : Debugger) (e : Label × Instruction) : String :=
  (if e.1 ∈ d.breakpoints then "●" else " ") ++ " "
    ++ (if e.1 = d.machine.label then "▶ " else "  ") ++ e.1.text ++ ": " ++ e.2.text

def itemStyle (d : Debugger) (e : Label × Instruction) : Style :=
  if e.1 = d.machine.label then ⟨.yellow, true⟩
  else if e.1 ∈ d.breakpoints then .ofColor .red
  else .plain

theorem head?_itemText (d : Debugger) (e : Label × Instruction) :
    (d.itemText e).toList.head? = some '●' ↔ e.1 ∈ d.breakpoints := by
  unfold itemText
  split <;> simp [*]

theorem getElem?_itemText (d : Debugger) (e : Label × Instruction) :
    (d.itemText e).toList[2]? = some '▶' ↔ e.1 = d.machine.label := by
  unfold itemText
  split <;> split <;> simp [*]

/-- The place of the current label among the definitions, the first if it has none. -/
def place (d : Debugger) (defs : List (Label × Instruction)) : Nat :=
  (defs.findIdx? fun e => e.1 == d.machine.label).getD 0

def window (d : Debugger) (defs : List (Label × Instruction)) (room : Nat) :
    List (Label × Instruction) :=
  (defs.drop (d.place defs - room / 2)).take room

theorem programList_eq (h : d.machine.program.definitions? = some defs) (area : Area) :
    d.programList area = .list ⟨.ofColor .cyan, " Program "⟩
      ((d.window defs (area.height - 2)).map fun e => ⟨d.itemStyle e, d.itemText e⟩) := by
  have hplace : ((defs.map fun e => (e.1, e.2, e.1 == d.machine.label)).findIdx? (·.2.2)).getD 0
      = d.place defs := by
    rw [List.findIdx?_map]
    rfl
  rw [programList, listing?, h, Option.map_some, Option.getD_some]
  simp only [hplace, ← List.map_drop, ← List.map_take, List.map_map, window]
  congr 2
  funext e
  simp [itemStyle, itemText, String.append_assoc, Std.ExtTreeSet.contains_iff_mem]

/-! ## The window -/

/-- A window that begins at most half its height above a place has the place inside. -/
theorem exists_window {α : Type} (as : List α) (x : α) (bs : List α) {rows : Nat}
    (hrows : 0 < rows) :
    ∃ above below, above <:+ as ∧ below <+: bs
      ∧ ((as ++ x :: bs).drop (as.length - rows / 2)).take rows = above ++ x :: below := by
  have hle : as.length - rows / 2 ≤ as.length := Nat.sub_le _ _
  have hlt : as.length - (as.length - rows / 2) < rows := by omega
  refine ⟨as.drop (as.length - rows / 2),
    bs.take (rows - (as.length - (as.length - rows / 2)) - 1),
    List.drop_suffix _ _, List.take_prefix _ _, ?_⟩
  rw [List.drop_append_of_le_length hle, List.take_append, List.length_drop,
    List.take_of_length_le (by rw [List.length_drop]; omega),
    List.take_cons (Nat.sub_pos_of_lt hlt)]

theorem place_append {as bs : List (Label × Instruction)} {e : Label × Instruction}
    (has : ∀ a ∈ as, a.1 ≠ d.machine.label) (he : e.1 = d.machine.label) :
    d.place (as ++ e :: bs) = as.length := by
  have hnone : as.findIdx? (fun a => a.1 == d.machine.label) = none :=
    List.findIdx?_eq_none_iff.2 fun a ha => beq_false_of_ne (has a ha)
  rw [place, List.findIdx?_append, hnone, Option.none_or, List.findIdx?_cons, he, beq_self_eq_true]
  simp

theorem window_of_undefined (h : ∀ e ∈ defs, e.1 ≠ d.machine.label) (room : Nat) :
    d.window defs room = defs.take room := by
  have hnone : defs.findIdx? (fun e => e.1 == d.machine.label) = none :=
    List.findIdx?_eq_none_iff.2 fun e he => beq_false_of_ne (h e he)
  rw [window, place, hnone, Option.getD_none, Nat.zero_sub, List.drop_zero]

theorem mem_of_mem_window {room : Nat} {e : Label × Instruction}
    (h : e ∈ d.window defs room) : e ∈ defs :=
  List.mem_of_mem_drop (List.mem_of_mem_take h)

theorem filter_label {l : Label} {i : Instruction} {above below : List (Label × Instruction)}
    (h : ∀ e ∈ above ++ below, e.1 ≠ l) :
    (above ++ (l, i) :: below).filter (fun e => e.1 = l) = [(l, i)] := by
  have hnone : (above ++ below).filter (fun e => e.1 = l) = [] :=
    List.filter_eq_nil_iff.2 fun e he => by simpa using h e he
  rw [List.filter_append, List.append_eq_nil_iff] at hnone
  rw [List.filter_append, hnone.1, List.filter_cons, if_pos (decide_eq_true rfl), hnone.2,
    List.nil_append]

theorem filter_window_of_defined (hn : (defs.map (·.1)).Nodup) {i : Instruction}
    (hi : (d.machine.label, i) ∈ defs) {room : Nat} (hroom : 0 < room) :
    (d.window defs room).filter (fun e => e.1 = d.machine.label) = [(d.machine.label, i)] := by
  obtain ⟨as, bs, rfl⟩ := List.append_of_mem hi
  rw [List.map_append, List.map_cons, List.nodup_append] at hn
  obtain ⟨-, hbs, has⟩ := hn
  have habove : ∀ a ∈ as, a.1 ≠ d.machine.label := fun a ha =>
    has a.1 (List.mem_map_of_mem ha) _ List.mem_cons_self
  have hbelow : ∀ b ∈ bs, b.1 ≠ d.machine.label := fun b hb heq =>
    (List.nodup_cons.1 hbs).1 (heq ▸ List.mem_map_of_mem (f := (·.1)) hb)
  obtain ⟨above, below, hsub, hsub', hwindow⟩ :=
    exists_window as (d.machine.label, i) bs hroom
  have hout : ∀ e ∈ above ++ below, e.1 ≠ d.machine.label := fun e he =>
    (List.mem_append.1 he).elim (fun ha => habove e (hsub.subset ha))
      fun hb => hbelow e (hsub'.subset hb)
  rw [window, place_append habove rfl, hwindow, filter_label hout]

/-- What items show: definitions that follow each other, each as its marks, its label and
its instruction.  The mark of the current label is on one of them if the label is
defined, else on none of them and they are the first ones. -/
structure Shows (d : Debugger) (defs : List (Label × Instruction)) (room : Nat)
    (shown : List (Label × Instruction)) (items : List Span) : Prop where
  consecutive : ∃ first, shown = (defs.drop first).take room
  length_le : items.length ≤ room
  texts : items.map (·.text) = shown.map fun (l, i) =>
    (if l ∈ d.breakpoints then "●" else " ") ++ " "
      ++ (if l = d.machine.label then "▶ " else "  ") ++ l.text ++ ": " ++ i.text
  styles : items.map (·.style) = shown.map fun (l, _) =>
    if l = d.machine.label then ⟨.yellow, true⟩
    else if l ∈ d.breakpoints then .ofColor .red
    else .plain
  defined : ∀ i, d.machine.current? = some i →
    shown.filter (fun e => e.1 = d.machine.label) = [(d.machine.label, i)]
  undefined : d.machine.current? = none →
    shown = defs.take room ∧ ∀ e ∈ shown, e.1 ≠ d.machine.label
  current_mark : ∀ (k : Nat) e item, shown[k]? = some e → items[k]? = some item →
    (item.text.toList[2]? = some '▶' ↔ e.1 = d.machine.label)
  breakpoint_mark : ∀ (k : Nat) e item, shown[k]? = some e → items[k]? = some item →
    (item.text.toList.head? = some '●' ↔ e.1 ∈ d.breakpoints)

theorem eq_of_getElem?_items {shown : List (Label × Instruction)} {k : Nat}
    {e : Label × Instruction} {item : Span} (he : shown[k]? = some e)
    (hitem : (shown.map fun e => (⟨d.itemStyle e, d.itemText e⟩ : Span))[k]? = some item) :
    item = ⟨d.itemStyle e, d.itemText e⟩ := by
  rw [List.getElem?_map, he, Option.map_some] at hitem
  exact (Option.some.inj hitem).symm

theorem shows_window (hn : (defs.map (·.1)).Nodup)
    (hi : ∀ i, d.machine.current? = some i ↔ (d.machine.label, i) ∈ defs)
    {room : Nat} (hroom : 0 < room) :
    Shows d defs room (d.window defs room)
      ((d.window defs room).map fun e => ⟨d.itemStyle e, d.itemText e⟩) where
  consecutive := ⟨_, rfl⟩
  length_le := by
    rw [List.length_map, window]
    exact List.length_take_le _ _
  texts := List.map_map
  styles := List.map_map
  defined i hcurrent := filter_window_of_defined hn ((hi i).1 hcurrent) hroom
  undefined hnone := by
    have hne : ∀ e ∈ defs, e.1 ≠ d.machine.label := by
      rintro ⟨l, i⟩ he rfl
      exact Option.some_ne_none i (((hi i).2 he).symm.trans hnone)
    exact ⟨window_of_undefined hne room, fun e he => hne e (mem_of_mem_window he)⟩
  current_mark k e item he hitem := by
    rw [eq_of_getElem?_items he hitem]
    exact d.getElem?_itemText e
  breakpoint_mark k e item he hitem := by
    rw [eq_of_getElem?_items he hitem]
    exact d.head?_itemText e

/-- **The program view shows where the machine is.**  After any acts and keys on a loaded
program the list, if it has room for an item, shows definitions that follow each other in
the program.  Just one of them is marked as the current one and it is the definition at
the current label; without such a definition none is marked and the first ones are shown.
The items with a mark for a breakpoint are those whose label has one. -/
theorem program_shown {source : String} {setup : Setup} (hload : Setup.load source = .ok setup)
    {d : Debugger} (hd : Reached setup d) {area : Area} (harea : 3 ≤ area.height) :
    ∃ defs shown items, setup.program.definitions? = some defs
      ∧ d.programList area = .list ⟨.ofColor .cyan, " Program "⟩ items
      ∧ Shows d defs (area.height - 2) shown items := by
  obtain ⟨-, defs, hn, -, hprogram⟩ := Setup.writable_iff.1 (Setup.writable_of_load hload)
  have hp : d.machine.program = .ofDefinitions defs := by
    rw [hd.onRun.program, hprogram]
  have hdefs : d.machine.program.definitions? = some defs := by
    rw [hp, Program.definitions?_ofDefinitions hn]
  have hcurrent : ∀ i, d.machine.current? = some i ↔ (d.machine.label, i) ∈ defs := by
    intro i
    rw [Machine.current?, hp, Program.get?_ofDefinitions_eq_some_iff hn]
  refine ⟨defs, _, _, ?_, programList_eq hdefs area, shows_window hn hcurrent (by omega)⟩
  rw [hprogram, Program.definitions?_ofDefinitions hn]

/-- A step on, with a breakpoint, the only item of a low list is the second definition.  At
the label that it leads to there is none and the first definition is shown. -/
theorem program_shown_step :
    let defs : List (Label × Instruction) :=
      [(⟨"a"⟩, .increment 0 ⟨"b"⟩), (⟨"b"⟩, .increment 0 ⟨"c"⟩)]
    let setup : Setup := ⟨⟨⟨"a"⟩, .ofList [0]⟩, .ofDefinitions defs⟩
    let d := ((ofSetup setup).perform .step).press .breakpoint
    let d' := d.perform .step
    let area : Area := ⟨0, 0, 48, 3⟩
    Setup.load "a, 0\na: inc(r0), b\nb: inc(r0), c\n" = .ok setup
      ∧ Reached setup d ∧ Reached setup d' ∧ d'.machine.current? = none
      ∧ d.programList area
        = .list ⟨.ofColor .cyan, " Program "⟩ [⟨⟨.yellow, true⟩, "● ▶ b: inc(r0), c"⟩]
      ∧ d'.programList area
        = .list ⟨.ofColor .cyan, " Program "⟩ [⟨.plain, "    a: inc(r0), b"⟩]
      ∧ (∃ shown, Shows d defs 1 shown [⟨⟨.yellow, true⟩, "● ▶ b: inc(r0), c"⟩])
      ∧ ∃ shown, Shows d' defs 1 shown [⟨.plain, "    a: inc(r0), b"⟩] := by
  intro defs setup d d' area
  have hload : Setup.load "a, 0\na: inc(r0), b\nb: inc(r0), c\n" = .ok setup := by
    decide +kernel
  have hd : Reached setup d := (Reached.start.perform .step).press .breakpoint
  have hd' : Reached setup d' := hd.perform .step
  have hdefs : setup.program.definitions? = some defs := by decide +kernel
  have hundefined : d'.machine.current? = none := by decide +kernel
  have hlist : d.programList area
      = .list ⟨.ofColor .cyan, " Program "⟩ [⟨⟨.yellow, true⟩, "● ▶ b: inc(r0), c"⟩] := by
    decide +kernel
  have hlist' : d'.programList area
      = .list ⟨.ofColor .cyan, " Program "⟩ [⟨.plain, "    a: inc(r0), b"⟩] := by
    decide +kernel
  obtain ⟨_, shown, _, h, hitems, hshows⟩ := program_shown hload hd (Nat.le_refl area.height)
  obtain ⟨_, shown', _, h', hitems', hshows'⟩ := program_shown hload hd' (Nat.le_refl area.height)
  cases Option.some.inj (h.symm.trans hdefs)
  cases Option.some.inj (h'.symm.trans hdefs)
  obtain ⟨-, rfl⟩ := Widget.list.inj (hitems.symm.trans hlist)
  obtain ⟨-, rfl⟩ := Widget.list.inj (hitems'.symm.trans hlist')
  exact ⟨hload, hd, hd', hundefined, hlist, hlist', ⟨shown, hshows⟩, shown', hshows'⟩

end Debugger

end CounterMachine
