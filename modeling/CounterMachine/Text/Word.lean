/-!
# Words

A word is a run of ASCII letters, digits and underscores.
-/

namespace CounterMachine.Text

def isWordChar (c : Char) : Bool :=
  c.isAlphanum || c == '_'

theorem isWordChar_eq (c : Char) :
    isWordChar c = (c.isUpper || c.isLower || c.isDigit || c == '_') := rfl

theorem isWordChar_of_isDigit {c : Char} (h : c.isDigit = true) : isWordChar c = true := by
  simp [isWordChar, Char.isAlphanum, h]

end CounterMachine.Text
