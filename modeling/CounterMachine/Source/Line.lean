import CounterMachine.Text.Normalize
import CounterMachine.Text.Pieces

/-!
# Lines of program text

Program text is cut at line feeds. Each line is normalized, and those that are
then blank or begin with a number sign say nothing.
-/

namespace CounterMachine

/-- A line of program text with its number, counted from one. -/
structure Line where
  number : Nat
  text : String
deriving DecidableEq, Inhabited

namespace Line

def ofRaw (number : Nat) (raw : String) : Line :=
  ⟨number, Text.normalize raw⟩

def isSignificant (line : Line) : Bool :=
  match line.text.toList with
  | [] => false
  | '#' :: _ => false
  | _ => true

theorem isSignificant_iff {line : Line} :
    line.isSignificant = true ↔ ∃ c cs, line.text.toList = c :: cs ∧ c ≠ '#' := by
  unfold isSignificant
  split
  · next h => simp [h]
  · next h => simp [h]
  · next hnil hsharp =>
    cases hcs : line.text.toList with
    | nil => exact absurd hcs hnil
    | cons c cs =>
      refine iff_of_true rfl ⟨c, cs, rfl, ?_⟩
      rintro rfl
      exact hsharp cs hcs

end Line

def numberedLines (source : String) : List Line :=
  ((Text.pieces '\n' source.toList).zipIdx 1).map fun (cs, i) => .ofRaw i (String.ofList cs)

/-- The lines of a text that say something. -/
def significantLines (source : String) : List Line :=
  (numberedLines source).filter Line.isSignificant

end CounterMachine
