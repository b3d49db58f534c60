import CounterMachine.Machine.Run

/-!
# Reports

The text of a finished run: a header, a line for everything seen, and a
summary of the outcome. A line determines what was seen, because the step ends
at the first comma and the registers begin at the last parenthesis.
-/

namespace CounterMachine

def HaltKind.title : HaltKind → String
  | proper => "Proper HALT"
  | erroneous => "Erroneous HALT"

def Snapshot.text (s : Snapshot) : String :=
  s.step.repr ++ ", " ++ s.label.text ++ ", " ++ s.registers.text

def Outcome.summary (o : Outcome) : String :=
  o.kind.title ++ "\n\nFinal register state: " ++ o.registers.text
    ++ "\nNumber of operations: " ++ o.stepCount.repr
    ++ "\nLast instruction label: " ++ o.label.text ++ "\n"

def Outcome.notice (o : Outcome) : String :=
  o.kind.title ++ " at " ++ o.label.text ++ " after " ++ o.stepCount.repr ++ " steps"

namespace Report

def header : String := "Execution Number, Instruction Label, Register State"

def traceText (trace : List Snapshot) : String :=
  header ++ "\n" ++ String.join (trace.map fun s => s.text ++ "\n")

def text (trace : List Snapshot) (outcome : Outcome) : String :=
  traceText trace ++ outcome.summary

end Report

end CounterMachine
