/-!
# Blocks of code points

Character classes are given by tables of code point blocks. Membership is by
code point, so a block may run over the surrogates, which no character has.
-/

namespace CounterMachine.Text

/-- A block of consecutive code points, both ends included. -/
structure CodeRange where
  first : Nat
  last : Nat
deriving Repr, DecidableEq

namespace CodeRange

def contains (r : CodeRange) (c : Char) : Bool :=
  r.first ≤ c.toNat && c.toNat ≤ r.last

theorem contains_iff {r : CodeRange} {c : Char} :
    r.contains c = true ↔ r.first ≤ c.toNat ∧ c.toNat ≤ r.last := by
  simp [contains]

end CodeRange

end CounterMachine.Text
