import CounterMachine.Source.Error
import CounterMachine.Source.Line
import CounterMachine.Text.Decimal
import CounterMachine.Text.Word

/-!
# The initial configuration

The first line of a program says where it starts and what the registers hold:
a label followed by values, with commas between them. What stands around them
does not count, so the configuration is the leftmost match in the line of

* a whole word without digits, followed by at least one value, or
* a run of digits, wherever it stands, followed by any number of values.

`search` goes through the positions of a line and past each word that no value
follows.
-/

namespace CounterMachine

/-- Where a program starts and what the registers hold then. -/
structure Configuration where
  startLabel : Label
  registers : Registers
deriving DecidableEq, Inhabited

namespace Configuration

open Text

def scan (chars : Array Char) (pred : Char → Bool) (start : Nat) : Nat :=
  if h : start < chars.size then
    if pred chars[start] then scan chars pred (start + 1) else start
  else start
termination_by chars.size - start

theorem le_scan (chars : Array Char) (pred : Char → Bool) (start : Nat) :
    start ≤ scan chars pred start := by
  fun_induction scan chars pred start with
  | case1 start h hc ih => exact Nat.le_of_succ_le ih
  | case2 => exact Nat.le_refl _
  | case3 => exact Nat.le_refl _

theorem lt_scan {chars : Array Char} {pred : Char → Bool} {start : Nat}
    (h : start < chars.size) (hc : pred chars[start] = true) : start < scan chars pred start := by
  rw [scan, dif_pos h, if_pos hc]
  exact le_scan chars pred (start + 1)

/-- The values at a position: the longest row of groups of a comma and digits. -/
def valuesFrom (chars : Array Char) (pos : Nat) : List Nat :=
  if h : pos + 1 < chars.size then
    if chars[pos] = ',' ∧ chars[pos + 1].isDigit then
      let stop := scan chars Char.isDigit (pos + 1)
      numeral (chars.extract (pos + 1) stop).toList :: valuesFrom chars stop
    else []
  else []
termination_by chars.size - pos
decreasing_by
  have hstop := le_scan chars Char.isDigit (pos + 1)
  omega

/-- The configuration at the first position, from one on, where one begins. -/
def search (chars : Array Char) (i : Nat) : Option Configuration :=
  if h : i < chars.size then
    if chars[i].isDigit then
      let stop := scan chars Char.isDigit i
      some ⟨.ofChars (chars.extract i stop).toList, .ofList (valuesFrom chars stop)⟩
    else if hskip : !isWordChar chars[i] || (0 < i && isWordChar chars[i - 1]) then
      search chars (i + 1)
    else
      let wordEnd := scan chars isWordChar i
      let word := (chars.extract i wordEnd).toList
      if word.any Char.isDigit then search chars (i + 1)
      else
        let values := valuesFrom chars wordEnd
        if values ≠ [] then some ⟨.ofChars word, .ofList values⟩ else search chars wordEnd
  else none
termination_by chars.size - i
decreasing_by
  · omega
  · omega
  · have hword : isWordChar chars[i] = true := by
      simp only [Bool.or_eq_true, not_or, Bool.not_eq_true', Bool.not_eq_false] at hskip
      exact hskip.1
    have hstop := lt_scan h hword
    omega

def ofLine (line : Line) : Except LoadError Configuration :=
  match search line.text.toList.toArray 0 with
  | some config => .ok config
  | none => .error (.configuration line.number line.text)

def text (config : Configuration) : String :=
  config.startLabel.text ++ String.join (config.registers.toList.map fun v => ", " ++ v.repr)

end Configuration

end CounterMachine
