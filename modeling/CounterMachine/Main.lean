import CounterMachine.Command.Response
import CounterMachine.Debugger.Key
import CounterMachine.Debugger.Screen

/-!
# The program

Reads the arguments and the program file, prints the answer and exits with its
code. The debugger prints its widgets one below the other and reads the name of a key
from each line.
-/

namespace CounterMachine

namespace Command

def readFailure : IO.Error → ReadFailure
  | .noFileOrDirectory .. => .notFound
  | .inappropriateType none _ _ => .isDirectory
  | .inappropriateType (some _) _ _ => .notADirectory
  | .invalidArgument (some _) .. => .nameTooLong
  | e => .other (toString e)

def readProgram (path : String) : IO (Except ReadFailure ByteArray) := do
  try
    return .ok (← IO.FS.readBinFile path)
  catch e =>
    return .error (readFailure e)

def usage : String :=
  "usage: minsky run [-m STEPS] [--no-trace] [--json] PROGRAM\n"
    ++ "       minsky check PROGRAM\n"
    ++ "       minsky fmt PROGRAM\n"
    ++ "       minsky debug PROGRAM\n"
    ++ "       minsky --version\n"

def widgetText : Widget → String
  | .list block items => block.title ++ "\n" ++ String.join (items.map (·.text ++ "\n"))
  | .paragraph block _ lines =>
    block.title ++ "\n"
      ++ String.join (lines.map fun line => String.join (line.map (·.text)) ++ "\n")

/-- Widgets one below the other, all of the same size. -/
def printer : Terminal String where
  area _ := ⟨0, 0, 80, 24⟩
  split _ extents area := extents.map fun _ => area
  render frame widget _ := frame ++ widgetText widget

/-- Draws the screen, reads a key and goes on, until a key quits. -/
partial def interact (d : Debugger) : IO Unit := do
  IO.println (d.draw printer "")
  let line ← (← IO.getStdin).getLine
  let key := Key.ofName line.trimAscii.toString
  unless line.isEmpty || key = .quit do
    interact (d.handle key)

def perform : Reply → IO UInt32
  | .response r => do
    IO.print r.stdout
    IO.eprint r.stderr
    return r.code.toUInt32
  | .debugger d => do
    interact d
    return 0

end Command

end CounterMachine

open CounterMachine in
def main (args : List String) : IO UInt32 := do
  match Command.ofArguments? args with
  | none =>
    IO.eprint Command.usage
    return 2
  | some command =>
    let content ← match command.path? with
      | some path => Command.readProgram path
      | none => pure (.error .notFound)
    Command.perform (command.reply fun _ => content)
