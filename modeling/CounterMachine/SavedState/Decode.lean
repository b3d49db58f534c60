import CounterMachine.Json.Reader
import CounterMachine.SavedState.Encode

/-!
# Reading saved state

A value is read back from its form in JSON. Members may stand in any order,
unknown ones are passed over, and a missing or repeated one is refused; the
array of the members' values in their order will do as well. Labels are taken
as they are, without normalizing them.

What stands in an instruction or an outcome has to be readable throughout, even
in members that are passed over, and `levels` says how deep it may be nested.
-/

namespace CounterMachine

open Json (isReadable)

/-- How deep arrays and objects may be nested in a saved value. -/
def nestingLimit : Nat := 127

namespace Json

def text? : Json → Option String
  | string s => s
  | _ => none

def word? : Json → Option Nat
  | number (.natural n) => if n < wordBound then some n else none
  | _ => none

def elements? : Json → Option (List Json)
  | array xs => some xs
  | _ => none

def member? (key : String) (members : List (Option String × Json)) : Option Json :=
  match members.filter (·.1 == some key) with
  | [(_, value)] => some value
  | _ => none

def fields? (keys : List String) : Json → Option (List Json)
  | array xs => if xs.length = keys.length then some xs else none
  | object ms =>
    if ms.all (·.1.isSome) then keys.mapM (member? · ms) else none
  | _ => none

/-- The text of the member that tells values of a type apart, and the value
with the members that are left. -/
def tagged? (key : String) : Json → Option (String × Json)
  | array (x :: xs) => x.text?.map (·, array xs)
  | object ms => do
    let value ← member? key ms
    let tag ← value.text?
    return (tag, object (ms.filter (·.1 != some key)))
  | _ => none

end Json

def Label.ofJson? (j : Json) : Option Label := j.text?.map (⟨·⟩)

namespace Registers

/-- The value of a decimal string: one plus sign may come first, and underscores
between the digits do not count. -/
def cellText? (s : String) : Option Nat :=
  let cs := match s.toList with
    | '+' :: cs => cs
    | cs => cs
  if cs ≠ [] ∧ cs.all (fun c => c.isDigit || c == '_') then
    some (Text.numeral (cs.filter Char.isDigit))
  else none

def cellOfJson? (j : Json) : Option Nat :=
  match j.word? with
  | some v => some v
  | none => j.text?.bind cellText?

def ofJson? (j : Json) : Option Registers := do
  let xs ← j.elements?
  let values ← xs.mapM cellOfJson?
  return .ofList values

end Registers

def Instruction.ofJson? (levels : Nat) (j : Json) : Option Instruction :=
  if isReadable levels j then
    match j.tagged? "op" with
    | some ("halt", .array []) | some ("halt", .object _) => some halt
    | some ("increment", rest) =>
      match rest.fields? ["register", "next"] with
      | some [r, next] => return increment (← r.word?) (← Label.ofJson? next)
      | _ => none
    | some ("decrement", rest) =>
      match rest.fields? ["register", "nonzero", "zero"] with
      | some [r, nonzero, zero] =>
        return decrement (← r.word?) (← Label.ofJson? nonzero) (← Label.ofJson? zero)
      | _ => none
    | _ => none
  else none

namespace Program

def tableOfJson? (levels : Nat) : Json → Option (Std.ExtTreeMap Label Instruction)
  | .object ms => do
    let entries ← ms.mapM fun (key, value) => do
      return (Label.mk (← key), ← Instruction.ofJson? (levels - 1) value)
    return .ofList entries
  | _ => none

def ofJson? (levels : Nat) (j : Json) : Option Program :=
  match j.fields? ["instructions", "order"] with
  | some [table, order] => do
    let table ← tableOfJson? (levels - 1) table
    let labels ← order.elements?
    return ⟨table, ← labels.mapM Label.ofJson?⟩
  | _ => none

end Program

def Configuration.ofJson? (j : Json) : Option Configuration :=
  match j.fields? ["start_label", "registers"] with
  | some [label, registers] => return ⟨← Label.ofJson? label, ← Registers.ofJson? registers⟩
  | _ => none

def Setup.ofJson? (j : Json) : Option Setup :=
  match j.fields? ["config", "program"] with
  | some [config, program] =>
    return ⟨← Configuration.ofJson? config, ← Program.ofJson? (nestingLimit - 1) program⟩
  | _ => none

def Snapshot.ofJson? (j : Json) : Option Snapshot :=
  match j.fields? ["step", "label", "registers"] with
  | some [step, label, registers] =>
    return ⟨← step.word?, ← Label.ofJson? label, ← Registers.ofJson? registers⟩
  | _ => none

def HaltKind.ofTag? (tag : String) : Option HaltKind :=
  if tag = HaltKind.proper.tag then some .proper
  else if tag = HaltKind.erroneous.tag then some .erroneous
  else none

def Outcome.ofJson? (j : Json) : Option Outcome :=
  if isReadable nestingLimit j then
    match j.tagged? "kind" with
    | some (tag, rest) =>
      match rest.fields? ["step_count", "final_label", "final_registers"] with
      | some [steps, label, registers] =>
        return ⟨← HaltKind.ofTag? tag, ← steps.word?, ← Label.ofJson? label,
          ← Registers.ofJson? registers⟩
      | _ => none
    | none => none
  else none

namespace Status

def ofName? (s : String) : Option Status :=
  [running, .halted .proper, .halted .erroneous].find? (·.name == s)

def ofJson? : Json → Option Status
  | .string s => s.bind ofName?
  | .object [(key, .null)] => key.bind ofName?
  | _ => none

end Status

def Machine.ofJson? (j : Json) : Option Machine :=
  match j.fields? ["program", "start_label", "initial_registers", "label", "registers",
      "state", "steps"] with
  | some [program, startLabel, initialRegisters, label, registers, state, steps] =>
    return {
      program := ← Program.ofJson? (nestingLimit - 1) program
      startLabel := ← Label.ofJson? startLabel
      initialRegisters := ← Registers.ofJson? initialRegisters
      label := ← Label.ofJson? label
      registers := ← Registers.ofJson? registers
      status := ← Status.ofJson? state
      steps := ← steps.word? }
  | _ => none

end CounterMachine
