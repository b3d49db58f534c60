import CounterMachine.Text.Normalize
import Std.Data.ExtTreeMap

/-!
# Labels

A label names an instruction of a program and is compared by its text, by code
points. Labels written in a program are normalized; one that was saved
elsewhere may be any text.
-/

namespace CounterMachine

/-- The name of an instruction. -/
structure Label where
  text : String
deriving DecidableEq, Inhabited

namespace Label

/-- The label a name stands for in program text: white space and case do not
count. -/
def ofName (name : String) : Label :=
  ⟨Text.normalize name⟩

def ofChars (cs : List Char) : Label :=
  ⟨String.ofList (Text.normalizeChars cs)⟩

theorem ofName_eq_ofChars (name : String) : ofName name = ofChars name.toList := rfl

@[ext] theorem ext {a b : Label} (h : a.text = b.text) : a = b := by
  cases a; cases b; cases h; rfl

instance : Ord Label := ⟨compareOn text⟩

instance : Std.TransOrd Label := inferInstanceAs (Std.TransCmp (compareOn text))

instance : Std.LawfulEqOrd Label where
  eq_of_compare {a b} h :=
    ext (Std.compare_eq_iff_eq.1 (show compare a.text b.text = .eq from h))

end Label

end CounterMachine
