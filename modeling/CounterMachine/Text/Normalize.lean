import CounterMachine.Text.Blank
import CounterMachine.Text.LowerCase

/-!
# Normal form of program text

Program text is read without its white space and in lower case. Both steps
work on one character at a time.
-/

namespace CounterMachine.Text

/-- The characters of a text without white space, in lower case. -/
def normalizeChars (cs : List Char) : List Char :=
  (cs.filter fun c => !isBlank c).flatMap lower

def normalize (s : String) : String :=
  String.ofList (normalizeChars s.toList)

@[simp] theorem normalizeChars_nil : normalizeChars [] = [] := rfl

theorem normalizeChars_append (as bs : List Char) :
    normalizeChars (as ++ bs) = normalizeChars as ++ normalizeChars bs := by
  simp [normalizeChars]

@[simp] theorem toList_normalize (s : String) :
    (normalize s).toList = normalizeChars s.toList := by
  simp [normalize]

end CounterMachine.Text
