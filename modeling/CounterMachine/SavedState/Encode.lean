import CounterMachine.Json.Printer
import CounterMachine.Source.Load

/-!
# Saved state

Every value of a program, its configuration and its run has a form in JSON. A
register value is a number if it fits in 64 bits and a decimal string if it
does not; a program's table is an object in the order of the labels.
-/

namespace CounterMachine

open Json (ofString ofNat ofMembers)

def Label.toJson (l : Label) : Json := ofString l.text

namespace Registers

/-- A register value as a number, or as a decimal string if it is too high. -/
def cellToJson (v : Nat) : Json :=
  if v < wordBound then ofNat v else ofString v.repr

def toJson (rs : Registers) : Json := .array (rs.toList.map cellToJson)

end Registers

def Instruction.toJson : Instruction → Json
  | halt => ofMembers [("op", ofString "halt")]
  | increment r next =>
    ofMembers [("op", ofString "increment"), ("register", ofNat r), ("next", next.toJson)]
  | decrement r nonzero zero =>
    ofMembers [("op", ofString "decrement"), ("register", ofNat r),
      ("nonzero", nonzero.toJson), ("zero", zero.toJson)]

def Program.toJson (p : Program) : Json :=
  ofMembers [
    ("instructions", ofMembers (p.table.toList.map fun (l, i) => (l.text, i.toJson))),
    ("order", .array (p.order.map Label.toJson))]

def Configuration.toJson (c : Configuration) : Json :=
  ofMembers [("start_label", c.startLabel.toJson), ("registers", c.registers.toJson)]

def Setup.toJson (s : Setup) : Json :=
  ofMembers [("config", s.config.toJson), ("program", s.program.toJson)]

def Snapshot.toJson (s : Snapshot) : Json :=
  ofMembers [("step", ofNat s.step), ("label", s.label.toJson),
    ("registers", s.registers.toJson)]

namespace HaltKind

def tag : HaltKind → String
  | proper => "proper_halt"
  | erroneous => "erroneous_halt"

end HaltKind

def Outcome.toJson (o : Outcome) : Json :=
  ofMembers [("kind", ofString o.kind.tag), ("step_count", ofNat o.stepCount),
    ("final_label", o.label.toJson), ("final_registers", o.registers.toJson)]

def Status.toJson (s : Status) : Json := ofString s.name

def Machine.toJson (m : Machine) : Json :=
  ofMembers [("program", m.program.toJson), ("start_label", m.startLabel.toJson),
    ("initial_registers", m.initialRegisters.toJson), ("label", m.label.toJson),
    ("registers", m.registers.toJson), ("state", m.status.toJson),
    ("steps", ofNat m.steps)]

namespace Report

def toJson (trace : List Snapshot) (outcome : Outcome) : Json :=
  ofMembers [("trace", .array (trace.map Snapshot.toJson)), ("outcome", outcome.toJson)]

def jsonText (trace : List Snapshot) (outcome : Outcome) : String :=
  (toJson trace outcome).text .indented

end Report

end CounterMachine
