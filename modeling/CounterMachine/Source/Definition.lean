import CounterMachine.Program
import CounterMachine.Source.Error
import CounterMachine.Source.Line
import CounterMachine.Text.Decimal
import CounterMachine.Text.Word

/-!
# Definitions

After the configuration each line defines a label: the label, a colon, and
`halt`, `inc(rN), next` or `dec(rN), nonzero, zero`. A program's lines are read
in order, and the first one that fails decides the error.
-/

namespace CounterMachine

namespace Definition

open Text

def splitLabel (line : Line) : Except LoadError (Label × List Char) :=
  match pieces ':' line.text.toList with
  | [label, body] =>
    if label ≠ [] then .ok (.ofChars label, body)
    else .error (.instruction line.number line.text)
  | _ => .error (.instruction line.number line.text)

/-- The name and the register digits of an operation `name(rN)`. -/
def operand? (cs : List Char) : Option (List Char × List Char) :=
  match cut? '(' cs with
  | some (name, 'r' :: rest) =>
    let digits := rest.dropLast
    if (name ≠ [] ∧ name.all isWordChar) ∧ rest.getLast? = some ')'
        ∧ (digits ≠ [] ∧ digits.all Char.isDigit) then
      some (name, digits)
    else none
  | _ => none

def build? (operation : Operation) (register : Nat) (targets : List (List Char)) :
    Option Instruction :=
  match operation, targets with
  | .increment, [next] => some (.increment register (.ofChars next))
  | .decrement, [nonzero, zero] =>
    some (.decrement register (.ofChars nonzero) (.ofChars zero))
  | _, _ => none

def parseOperation (line : Line) (operation : List Char) (targets : List (List Char)) :
    Except LoadError Instruction :=
  match operand? operation with
  | none => .error (.operation line.number line.text)
  | some (name, digits) =>
    if Registers.highest < numeral digits then
      .error (.registerRange line.number (String.ofList digits))
    else
      match Operation.ofName? name with
      | none => .error (.unknownOperation line.number (String.ofList name))
      | some operation =>
        match build? operation (numeral digits) targets with
        | some instruction => .ok instruction
        | none => .error (.arity line.number operation targets.length)

def parseBody (line : Line) (body : List Char) : Except LoadError Instruction :=
  match pieces ',' body with
  | [] => .error (.operation line.number line.text)
  | operation :: targets =>
    if operation = ['h', 'a', 'l', 't'] ∧ targets = [] then .ok .halt
    else parseOperation line operation targets

/-- The definitions of some lines, when those of earlier lines are known by
label and line number. -/
def parseLines (seen : Std.ExtTreeMap Label Nat) :
    List Line → Except LoadError (List (Label × Instruction))
  | [] => .ok []
  | line :: lines =>
    match splitLabel line with
    | .error e => .error e
    | .ok (label, body) =>
      match seen[label]? with
      | some first => .error (.duplicateLabel line.number label first)
      | none =>
        match parseBody line body with
        | .error e => .error e
        | .ok instruction =>
          match parseLines (seen.insert label line.number) lines with
          | .error e => .error e
          | .ok defs => .ok ((label, instruction) :: defs)

end Definition

def Program.ofLines (lines : List Line) : Except LoadError Program :=
  (Definition.parseLines ∅ lines).map .ofDefinitions

end CounterMachine
