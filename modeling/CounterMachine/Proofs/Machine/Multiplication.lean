import CounterMachine.Proofs.Machine.Stretches
import CounterMachine.Proofs.Source.ListingRoundTrip
import Mathlib.Algebra.Group.Nat.Defs

/-!
# Multiplication

A program of seven instructions multiplies `r0` by `r1` into `r2`.  For each unit of
`r0` it moves `r1` to `r2` and to the scratch register `r3`, one at a time, and then
moves `r3` back to `r1`.

Each loop has its own stretch: `stretch_copy` and `stretch_restore` for the inner ones,
and from them `stretch_round` and `stretch_rounds` for the outer one.  The row of
registers is filled up in the first round only, when the scratch register is first
looked at, and stays as short as the configuration has it when there is no round.

Main statement: from its text, with any two values, the program is executed to the
product in a number of steps that the values tell, `execute_product`.
-/

namespace CounterMachine

open Text

/-! ## The text -/

namespace Multiplication

open Machine

def definitions : List (Label × Instruction) :=
  [(⟨"start"⟩, .decrement 0 ⟨"copy"⟩ ⟨"done"⟩),
   (⟨"copy"⟩, .decrement 1 ⟨"add"⟩ ⟨"restore"⟩),
   (⟨"add"⟩, .increment 2 ⟨"keep"⟩),
   (⟨"keep"⟩, .increment 3 ⟨"copy"⟩),
   (⟨"restore"⟩, .decrement 3 ⟨"back"⟩ ⟨"start"⟩),
   (⟨"back"⟩, .increment 1 ⟨"restore"⟩),
   (⟨"done"⟩, .halt)]

def program : Program := .ofDefinitions definitions

def code : List String :=
  ["start: dec(r0), copy, done", "copy:  dec(r1), add, restore", "add:   inc(r2), keep",
   "keep:  inc(r3), copy", "restore: dec(r3), back, start", "back:  inc(r1), restore",
   "done:  halt"]

/-- The text of the program with the values to be multiplied. -/
def source (a b : Nat) : String :=
  String.join ((("start, " ++ a.repr ++ ", " ++ b.repr) :: code).map (· ++ "\n"))

theorem get?_program (i : Nat) {l : Label} {instruction : Instruction}
    (h : definitions[i]? = some (l, instruction)) : program.get? l = some instruction :=
  Program.get?_ofDefinitions_of_mem (by decide) (List.mem_of_getElem? h)

theorem load_source (a b : Nat) :
    Setup.load (source a b) = .ok ⟨⟨⟨"start"⟩, .ofList [a, b]⟩, program⟩ := by
  have hne : "start" ≠ "" := by
    decide
  have hlower : "start".toList.all Char.isLower = true := by
    decide
  have hstart : Configuration.Startable ⟨⟨"start"⟩, .ofList [a, b]⟩ :=
    ⟨hne, Or.inr ⟨fun c hc => Or.inl (List.all_eq_true.1 hlower c hc), rfl⟩⟩
  have htext : "start, " ++ a.repr ++ ", " ++ b.repr
      = Configuration.text ⟨⟨"start"⟩, .ofList [a, b]⟩ := by
    rw [← String.toList_inj]
    simp [Configuration.text]
  have hline : ∀ raw ∈ code, '\n' ∉ raw.toList := by
    decide
  have hfirst : ∀ raw ∈ code, (Line.ofRaw 0 raw).isSignificant = true := by
    decide +kernel
  have hs : ∀ raw ∈ code, ∀ n, (Line.ofRaw n raw).isSignificant = true := fun raw hraw n =>
    (Line.isSignificant_ofRaw n 0 raw).trans (hfirst raw hraw)
  have hcode : Program.ofLines ((code.zipIdx 2).map fun x => .ofRaw x.2 x.1) = .ok program := by
    decide +kernel
  rw [source, htext]
  exact Setup.load_join hstart hline hs hcode

/-! ## The loops -/

abbrev At (label : String) (n : Nat) (vs : List Nat) : Machine → Prop :=
  StandsAt program ⟨label⟩ n vs

theorem stretch_move (n w x y z : Nat) :
    Stretch 3 (At "copy" n [w, x + 1, y, z]) (At "copy" n [w, x, y + 1, z + 1]) := by
  have hcopy : Stretch 1 (At "copy" n [w, x + 1, y, z]) (At "add" n [w, x, y, z]) :=
    StandsAt.decrement (get?_program 1 rfl) (by decide) rfl (Nat.le_max_left n 2)
  have hadd : Stretch 1 (At "add" n [w, x, y, z]) (At "keep" n [w, x, y + 1, z]) :=
    StandsAt.increment (get?_program 2 rfl) (by decide) rfl (Nat.le_max_left n 3)
  have hkeep : Stretch 1 (At "keep" n [w, x, y + 1, z]) (At "copy" n [w, x, y + 1, z + 1]) :=
    StandsAt.increment (get?_program 3 rfl) (by decide) rfl (Nat.le_max_left n 4)
  exact (hcopy.trans hadd).trans hkeep

theorem stretch_copy (n w b y : Nat) :
    Stretch (b * 3 + 1) (At "copy" n [w, b, y, 0]) (At "restore" n [w, 0, y + b, b]) := by
  have hloop : Stretch (b * 3) (At "copy" n [w, b - 0, y + 0, 0])
      (At "copy" n [w, b - b, y + b, b]) := by
    refine Stretch.iterate (I := fun i => At "copy" n [w, b - i, y + i, i]) b fun i hi => ?_
    obtain ⟨d, rfl⟩ := Nat.exists_eq_add_of_lt hi
    have hmove := stretch_move n w d (y + i) i
    rwa [show i + d + 1 - i = d + 1 by omega, show i + d + 1 - (i + 1) = d by omega]
  rw [Nat.sub_self] at hloop
  exact hloop.trans
    (StandsAt.decrement_zero (get?_program 1 rfl) (by decide) rfl (Nat.le_max_left n 2))

theorem stretch_moveBack (n w x y z : Nat) :
    Stretch 2 (At "restore" n [w, x, y, z + 1]) (At "restore" n [w, x + 1, y, z]) := by
  have hrestore : Stretch 1 (At "restore" n [w, x, y, z + 1]) (At "back" n [w, x, y, z]) :=
    StandsAt.decrement (get?_program 4 rfl) (by decide) rfl (Nat.le_max_left n 4)
  have hback : Stretch 1 (At "back" n [w, x, y, z]) (At "restore" n [w, x + 1, y, z]) :=
    StandsAt.increment (get?_program 5 rfl) (by decide) rfl (Nat.le_max_left n 2)
  exact hrestore.trans hback

theorem stretch_restore (n w b y : Nat) :
    Stretch (b * 2 + 1) (At "restore" n [w, 0, y, b]) (At "start" 4 [w, b, y, 0]) := by
  have hloop : Stretch (b * 2) (At "restore" n [w, 0, y, b - 0])
      (At "restore" n [w, b, y, b - b]) := by
    refine Stretch.iterate (I := fun i => At "restore" n [w, i, y, b - i]) b fun i hi => ?_
    obtain ⟨d, rfl⟩ := Nat.exists_eq_add_of_lt hi
    have hmove := stretch_moveBack n w i y d
    rwa [show i + d + 1 - i = d + 1 by omega, show i + d + 1 - (i + 1) = d by omega]
  rw [Nat.sub_self] at hloop
  exact hloop.trans
    (StandsAt.decrement_zero (get?_program 4 rfl) (by decide) rfl (Nat.le_max_right n 4))

/-- A unit of `r0` adds `r1` to `r2`. -/
theorem stretch_round (n w b y : Nat) :
    Stretch (5 * b + 3) (At "start" n [w + 1, b, y, 0]) (At "start" 4 [w, b, y + b, 0]) := by
  have hstart : Stretch 1 (At "start" n [w + 1, b, y, 0]) (At "copy" n [w, b, y, 0]) :=
    StandsAt.decrement (get?_program 0 rfl) (by decide) rfl (Nat.le_max_left n 1)
  have hround := (hstart.trans (stretch_copy n w b y)).trans (stretch_restore n w b (y + b))
  rwa [show 1 + (b * 3 + 1) + (b * 2 + 1) = 5 * b + 3 by omega] at hround

theorem stretch_rounds (a b y : Nat) :
    Stretch (a * (5 * b + 3)) (At "start" 4 [a, b, y, 0]) (At "start" 4 [0, b, y + a * b, 0]) := by
  have hloop : Stretch (a * (5 * b + 3)) (At "start" 4 [a - 0, b, y + 0 * b, 0])
      (At "start" 4 [a - a, b, y + a * b, 0]) := by
    refine Stretch.iterate (I := fun i => At "start" 4 [a - i, b, y + i * b, 0]) a fun i hi => ?_
    obtain ⟨d, rfl⟩ := Nat.exists_eq_add_of_lt hi
    have hround := stretch_round 4 d b (y + i * b)
    have hproduct : y + (i + 1) * b = y + i * b + b := by
      rw [Nat.succ_mul, Nat.add_assoc]
    rwa [show i + d + 1 - i = d + 1 by omega, show i + d + 1 - (i + 1) = d by omega, hproduct]
  rwa [Nat.sub_zero, Nat.zero_mul, Nat.add_zero, Nat.sub_self] at hloop

theorem stretch_done (n b : Nat) (vs : List Nat) :
    Stretch 1 (At "start" n (0 :: b :: vs)) (At "done" n (0 :: b :: vs)) :=
  StandsAt.decrement_zero (get?_program 0 rfl) (by decide) rfl (Nat.le_max_left n 1)

/-- The registers at the end: none has been added where there was nothing to do. -/
def result (a b : Nat) : List Nat := if a = 0 then [0, b] else [0, b, a * b, 0]

/-- The first round fills the row up, and the others find it so. -/
theorem stretch_product (a b : Nat) :
    Stretch (a * (5 * b + 3) + 1) (At "start" 2 [a, b])
      (At "done" (result a b).length (result a b)) := by
  cases a with
  | zero =>
      rw [Nat.zero_mul]
      exact stretch_done 2 b []
  | succ a =>
      have hfirst : Stretch (5 * b + 3) (At "start" 2 [a + 1, b]) (At "start" 4 [a, b, b, 0]) := by
        have hround := stretch_round 2 a b 0
        rw [Nat.zero_add] at hround
        exact hround.of_imp fun m hm => hm.append_zeros 2
      have hproduct := (hfirst.trans (stretch_rounds a b b)).trans (stretch_done 4 b [b + a * b, 0])
      have hvalue : b + a * b = (a + 1) * b := by
        rw [Nat.succ_mul, Nat.add_comm]
      rw [hvalue, Nat.add_comm (5 * b + 3), ← Nat.succ_mul] at hproduct
      exact hproduct

/-- **The program multiplies.**  For any two values it is loaded and executed to its halt
instruction, with the product in `r2` and the second value back in `r1`, in a number of
steps that the values tell. -/
theorem execute_product (a b : Nat) (h : a * (5 * b + 3) + 2 < 2 ^ 64) :
    ∃ setup trace, Setup.load (source a b) = .ok setup
      ∧ setup.execute = .ok (⟨.proper, a * (5 * b + 3) + 2, ⟨"done"⟩,
          .ofList (if a = 0 then [0, b] else [0, b, a * b, 0])⟩, trace) := by
  have hsteps : a * (5 * b + 3) + 1 + 1 ≤ stepLimit := by
    have hlimit : stepLimit + 1 = 2 ^ 64 := by
      decide
    omega
  obtain ⟨trace, htrace⟩ :=
    StandsAt.execute [a, b] (get?_program 6 rfl) (stretch_product a b) hsteps
  exact ⟨_, trace, load_source a b, htrace⟩

/-- Three times five, and zero times seven, where no register is added. -/
theorem execute_product_small :
    3 * (5 * 5 + 3) + 2 < 2 ^ 64 ∧ 0 * (5 * 7 + 3) + 2 < 2 ^ 64
      ∧ (∃ setup trace, Setup.load (source 3 5) = .ok setup
          ∧ setup.execute = .ok (⟨.proper, 86, ⟨"done"⟩, .ofList [0, 5, 15, 0]⟩, trace))
      ∧ ∃ setup trace, Setup.load (source 0 7) = .ok setup
          ∧ setup.execute = .ok (⟨.proper, 2, ⟨"done"⟩, .ofList [0, 7]⟩, trace) := by
  have hthree : 3 * (5 * 5 + 3) + 2 < 2 ^ 64 := by
    decide
  have hzero : 0 * (5 * 7 + 3) + 2 < 2 ^ 64 := by
    decide
  exact ⟨hthree, hzero, execute_product 3 5 hthree, execute_product 0 7 hzero⟩

end Multiplication

end CounterMachine
