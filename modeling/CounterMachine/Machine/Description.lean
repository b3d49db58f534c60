import CounterMachine.Machine.Basic
import CounterMachine.Text.Quoted

/-!
# Descriptions

One-line descriptions of machines for diagnosis. Labels are quoted, so that a
description shows every character of them.
-/

namespace CounterMachine

def Registers.description (rs : Registers) : String :=
  "RegisterFile" ++ rs.text

def Machine.description (m : Machine) : String :=
  "Machine \x7b state: " ++ m.status.name ++ ", steps: " ++ m.steps.repr
    ++ ", label: " ++ Text.quoted m.label.text
    ++ ", registers: " ++ m.registers.description ++ " \x7d"

end CounterMachine
