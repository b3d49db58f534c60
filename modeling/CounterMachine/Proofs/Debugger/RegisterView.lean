import CounterMachine.Debugger.Key
import CounterMachine.Debugger.Screen
import CounterMachine.Proofs.Debugger.Breakpoints
import CounterMachine.Proofs.Machine.Growth
import Mathlib.Data.List.Induction

/-!
# The register view

The list of registers begins with the register that the view has been scrolled to.
`InView` says that there is such a register, or that nothing has been scrolled.  It is
looked at only where the view moves down: steps never shorten the row of registers,
so that they need not ask.  A reset gives the row back its first length and does not
ask either, and the view may then be past every register, `reset_leaves_view`.

* `Onward.size_le` and the lemmas on `scroll`: what runs keep;
* `InView.press`: every key but the reset keeps the view on the registers;
* `OnRun.inView_reset_iff`: a reset does so just when the view is on the first registers.

Main statement: a session keeps the view on the registers just when its resets do,
`register_shown_iff`.
-/

namespace CounterMachine

namespace Debugger

/-- The view has not been scrolled, or it begins with a register. -/
def InView (d : Debugger) : Prop :=
  d.scroll = 0 ∨ d.scroll < d.machine.registers.size

instance (d : Debugger) : Decidable d.InView := inferInstanceAs (Decidable (_ ∨ _))

/-- The debugger when it has handled some keys, whatever they are. -/
def afterKeys (d : Debugger) (keys : List Key) : Debugger := keys.foldl handle d

variable {d d' : Debugger} {setup : Setup} {key : Key} {keys : List Key}

theorem handleAll_eq (d : Debugger) (keys : List Key) :
    d.handleAll keys = d.afterKeys (keys.takeWhile (· != .quit)) := rfl

theorem afterKeys_concat (d : Debugger) (keys : List Key) (key : Key) :
    d.afterKeys (keys ++ [key]) = (d.afterKeys keys).handle key := by
  rw [afterKeys, List.foldl_concat, afterKeys]

/-! ## What runs keep -/

theorem Onward.size_le (h : Onward d d') :
    d.machine.registers.size ≤ d'.machine.registers.size := by
  rw [h.machine]
  exact Machine.size_le_iterate_next _ _

theorem Steps.scroll_eq (h : Steps d d') : d'.scroll = d.scroll := by
  cases h <;> rfl

theorem scroll_resume (d : Debugger) : d.resume.scroll = d.scroll := by
  unfold resume
  split <;> rfl

theorem scroll_run (d : Debugger) : d.run.scroll = d.scroll := by
  rw [run_eq]
  split
  · rw [scroll_resume, (steps_step d).scroll_eq]
  · exact scroll_resume d

theorem scroll_noticeHalt (d : Debugger) : d.noticeHalt.scroll = d.scroll := by
  unfold noticeHalt
  split <;> rfl

theorem scroll_tick (d : Debugger) : d.tick.scroll = d.scroll := by
  unfold tick
  split
  · rfl
  · split
    · exact scroll_noticeHalt d
    · split
      · rfl
      · exact (steps_step d).scroll_eq

theorem scroll_tickBatch (n : Nat) (d : Debugger) : (tickBatch n d).scroll = d.scroll := by
  induction n generalizing d with
  | zero => rfl
  | succ n ih => rw [tickBatch_succ, ih, scroll_tick]

theorem scroll_toggleBreakpoint (d : Debugger) : d.toggleBreakpoint.scroll = d.scroll := by
  unfold toggleBreakpoint
  split <;> rfl

/-! ## Keys on a run -/

theorem OnRun.press (h : OnRun setup d) (key : Key) : OnRun setup (d.press key) := by
  cases key with
  | step => exact (h.setRunning false).step
  | run => exact h.run
  | pause => exact h.of_machine_eq rfl (Or.inr fun o => Notice.noConfusion)
  | breakpoint => exact h.toggleBreakpoint
  | reset => exact h.reset
  | up => exact h.of_machine_eq rfl (Or.inl rfl)
  | down =>
      change OnRun setup d.scrollDown
      unfold scrollDown
      split
      · exact h.of_machine_eq rfl (Or.inl rfl)
      · exact h
  | quit => exact h
  | other => exact h

theorem OnRun.afterKeys (h : OnRun setup d) (keys : List Key) :
    OnRun setup (d.afterKeys keys) := by
  induction keys generalizing d with
  | nil => exact h
  | cons key keys ih => exact ih ((h.press key).tickBatch ticksPerKey)

/-! ## The view -/

theorem InView.of_scroll_eq (h : InView d) (hs : d'.scroll = d.scroll)
    (hsize : d.machine.registers.size ≤ d'.machine.registers.size) : InView d' := by
  unfold InView at h ⊢
  omega

theorem InView.tickBatch (h : InView d) (n : Nat) : InView (Debugger.tickBatch n d) :=
  h.of_scroll_eq (scroll_tickBatch n d) (onward_tickBatch d n).size_le

theorem InView.press (h : InView d) (hkey : key ≠ .reset) : InView (d.press key) := by
  cases key with
  | step =>
      have hstep := steps_step (d.setRunning false)
      exact h.of_scroll_eq hstep.scroll_eq hstep.onward.size_le
  | run => exact h.of_scroll_eq (scroll_run d) (onward_run d).size_le
  | pause => exact h
  | breakpoint =>
      refine h.of_scroll_eq (scroll_toggleBreakpoint d) ?_
      exact Nat.le_of_eq (congrArg (·.registers.size) (machine_toggleBreakpoint d).symm)
  | reset => exact absurd rfl hkey
  | up =>
      change d.scroll - 1 = 0 ∨ d.scroll - 1 < d.machine.registers.size
      unfold InView at h
      omega
  | down =>
      change InView d.scrollDown
      unfold scrollDown
      split
      · next hlt => exact Or.inr hlt
      · exact h
  | quit => exact h
  | other => exact h

theorem OnRun.inView_reset_iff (h : OnRun setup d) :
    InView (d.press .reset) ↔ d.scroll = 0 ∨ d.scroll < setup.config.registers.size := by
  change d.scroll = 0 ∨ d.scroll < d.machine.reset.registers.size ↔ _
  rw [h.machine_reset]
  rfl

theorem inView_afterKeys
    (h : ∀ pre, pre ++ [.reset] <+: keys → ((ofSetup setup).afterKeys pre).scroll = 0
      ∨ ((ofSetup setup).afterKeys pre).scroll < setup.config.registers.size) :
    InView ((ofSetup setup).afterKeys keys) := by
  induction keys using List.reverseRecOn with
  | nil => exact Or.inl rfl
  | append_singleton keys key ih =>
      have hview := ih fun pre hpre => h pre (hpre.trans (List.prefix_append keys [key]))
      rw [afterKeys_concat]
      refine InView.tickBatch ?_ ticksPerKey
      by_cases hkey : key = .reset
      · subst hkey
        exact ((onRun_ofSetup setup).afterKeys keys).inView_reset_iff.2 (h keys List.prefix_rfl)
      · exact hview.press hkey

/-- The view is never past the registers that there have been. -/
theorem scroll_afterKeys (setup : Setup) (keys : List Key) :
    ((ofSetup setup).afterKeys keys).scroll = 0
      ∨ ∃ pre, pre <+: keys ∧ ((ofSetup setup).afterKeys keys).scroll
        < ((ofSetup setup).afterKeys pre).machine.registers.size := by
  induction keys using List.reverseRecOn with
  | nil => exact Or.inl rfl
  | append_singleton keys key ih =>
      have hlow {n : Nat} (hn : n ≤ ((ofSetup setup).afterKeys keys).scroll) :
          n = 0 ∨ ∃ pre, pre <+: keys ++ [key]
            ∧ n < ((ofSetup setup).afterKeys pre).machine.registers.size := by
        rcases ih with hzero | ⟨pre, hpre, hlt⟩
        · exact Or.inl (by omega)
        · exact Or.inr ⟨pre, hpre.trans (List.prefix_append keys [key]), by omega⟩
      rw [afterKeys_concat, handle, scroll_tickBatch]
      generalize hd : (ofSetup setup).afterKeys keys = d at hlow
      cases key with
      | step => exact hlow (Nat.le_of_eq (steps_step (d.setRunning false)).scroll_eq)
      | run => exact hlow (Nat.le_of_eq (scroll_run d))
      | breakpoint => exact hlow (Nat.le_of_eq (scroll_toggleBreakpoint d))
      | up => exact hlow (Nat.sub_le d.scroll 1)
      | down =>
          change d.scrollDown.scroll = 0 ∨ ∃ pre, pre <+: keys ++ [.down]
            ∧ d.scrollDown.scroll < ((ofSetup setup).afterKeys pre).machine.registers.size
          unfold scrollDown
          split
          · next hlt => exact Or.inr ⟨keys, List.prefix_append keys _, hd ▸ hlt⟩
          · exact hlow (Nat.le_refl _)
      | pause => exact hlow (Nat.le_refl _)
      | reset => exact hlow (Nat.le_refl _)
      | quit => exact hlow (Nat.le_refl _)
      | other => exact hlow (Nat.le_refl _)

theorem length_registerRows (d : Debugger) (rows : Nat) :
    (d.registerRows rows).length = min rows (d.machine.registers.size - d.scroll) := by
  have hlength : d.machine.registers.toList.length = d.machine.registers.size := Array.length_toList
  simp only [registerRows, List.length_map, List.length_zipIdx, List.length_take,
    List.length_drop, hlength]
  omega

theorem registerRows_ne_nil_iff {rows : Nat} (hrows : 0 < rows)
    (hsize : 0 < d.machine.registers.size) : d.registerRows rows ≠ [] ↔ InView d := by
  have hlength := length_registerRows d rows
  rw [← List.length_pos_iff, hlength]
  unfold InView
  omega

/-- **The view is on the registers throughout a session just when each reset finds it on
the registers of the start.**  The view is then on them after every key and every tick, and
where there are registers and rows the list shows one.  So it is in a session without
resets.  In any session the view is on the registers of the moment or of an earlier one. -/
theorem register_shown_iff (setup : Setup) (keys : List Key) :
    let after (pre : List Key) : Debugger := (ofSetup setup).afterKeys pre
    ((∀ pre key, pre ++ [key] <+: keys → ∀ n, InView (tickBatch n ((after pre).press key))) ↔
        ∀ pre, pre ++ [.reset] <+: keys →
          (after pre).scroll = 0 ∨ (after pre).scroll < setup.config.registers.size)
      ∧ (.reset ∉ keys → InView ((ofSetup setup).handleAll keys))
      ∧ ((after keys).scroll = 0
          ∨ ∃ pre, pre <+: keys ∧ (after keys).scroll < (after pre).machine.registers.size)
      ∧ ∀ rows, 0 < rows → 0 < (after keys).machine.registers.size →
          ((after keys).registerRows rows ≠ [] ↔ InView (after keys)) := by
  intro after
  have honRun (pre : List Key) : OnRun setup (after pre) := (onRun_ofSetup setup).afterKeys pre
  refine ⟨⟨fun h pre hpre => ?_, fun h pre key hpre n => ?_⟩, fun hreset => ?_,
    scroll_afterKeys setup keys, fun rows hrows hsize => registerRows_ne_nil_iff hrows hsize⟩
  · have hview := h pre .reset hpre 0
    rw [tickBatch_zero] at hview
    exact (honRun pre).inView_reset_iff.1 hview
  · have hview : InView (after pre) :=
      inView_afterKeys fun p hp => h p (hp.trans ((List.prefix_append pre [key]).trans hpre))
    refine InView.tickBatch ?_ n
    by_cases hkey : key = .reset
    · subst hkey
      exact (honRun pre).inView_reset_iff.2 (h pre hpre)
    · exact hview.press hkey
  · rw [handleAll_eq]
    refine inView_afterKeys fun pre hpre => absurd ?_ hreset
    exact (List.takeWhile_sublist _).subset (hpre.subset (by simp))

/-- Two registers are added and the view goes down by one.  Scrolled up again before the
reset it stays on the registers; the session without a reset shows the second register. -/
theorem register_shown_iff_scrolled :
    let setup : Setup := ⟨⟨⟨"a"⟩, .ofList [0]⟩, .ofDefinitions
      [(⟨"a"⟩, .increment 2 ⟨"b"⟩), (⟨"b"⟩, .halt)]⟩
    let down : List Key := [.step, .down]
    let up : List Key := [.step, .down, .up]
    Setup.load "a, 0\na: inc(r2), b\nb: halt\n" = .ok setup
      ∧ (∀ pre key, pre ++ [key] <+: up ++ [.reset] →
          ∀ n, InView (tickBatch n (((ofSetup setup).afterKeys pre).press key)))
      ∧ .reset ∉ down ∧ InView ((ofSetup setup).handleAll down)
      ∧ ((ofSetup setup).afterKeys down).scroll = 1
      ∧ ((ofSetup setup).afterKeys down).registerRows 12 ≠ [] := by
  intro setup down up
  have hload : Setup.load "a, 0\na: inc(r2), b\nb: halt\n" = .ok setup := by
    decide +kernel
  have hresets : ∀ pre, pre ++ [.reset] <+: up ++ [.reset] →
      ((ofSetup setup).afterKeys pre).scroll = 0
        ∨ ((ofSetup setup).afterKeys pre).scroll < setup.config.registers.size := by
    intro pre hpre
    have hpre' : pre = up := by
      rcases List.prefix_concat_iff.1 hpre with heq | hin
      · exact List.append_cancel_right heq
      · have hmem : Key.reset ∈ up := hin.subset (List.mem_append_right pre List.mem_cons_self)
        exact absurd hmem (by decide)
    rw [hpre']
    decide +kernel
  have hdown : Key.reset ∉ down := by decide
  have hview : InView ((ofSetup setup).afterKeys down) := by
    decide +kernel
  have hsize : 0 < ((ofSetup setup).afterKeys down).machine.registers.size := by
    decide +kernel
  have hscroll : ((ofSetup setup).afterKeys down).scroll = 1 := by
    decide +kernel
  obtain ⟨hiff, -⟩ := register_shown_iff setup (up ++ [.reset])
  obtain ⟨-, hnone, -, hrows⟩ := register_shown_iff setup down
  exact ⟨hload, hiff.2 hresets, hdown, hnone hdown, hscroll,
    (hrows 12 (by decide) hsize).2 hview⟩

/-- A reset shortens the row of registers under a view that has been scrolled down, and
no register is shown although there is one. -/
theorem reset_leaves_view :
    let setup : Setup := ⟨⟨⟨"a"⟩, .ofList [0]⟩, .ofDefinitions
      [(⟨"a"⟩, .increment 2 ⟨"b"⟩), (⟨"b"⟩, .halt)]⟩
    let d := (ofSetup setup).handleAll [.step, .down, .reset]
    Setup.load "a, 0\na: inc(r2), b\nb: halt\n" = .ok setup
      ∧ d.scroll = 1 ∧ d.machine.registers.size = 1
      ∧ ¬ (d.scroll = 0 ∨ d.scroll < d.machine.registers.size)
      ∧ d.registerRows 12 = [] := by
  decide +kernel

end Debugger

end CounterMachine
