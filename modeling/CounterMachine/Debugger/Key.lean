import CounterMachine.Debugger.Basic

/-!
# Keys of the debugger

Keys are known by name, and modifiers make no difference. While the debugger
runs, each key is followed by a batch of steps.
-/

namespace CounterMachine

inductive Key where
  | step
  | run
  | pause
  | breakpoint
  | reset
  | up
  | down
  | quit
  | other
deriving DecidableEq

namespace Key

def plainName (name : String) : List Char :=
  match name.toList with
  | 'c' :: 't' :: 'r' :: 'l' :: '+' :: rest => rest
  | 'a' :: 'l' :: 't' :: '+' :: rest => rest
  | cs => cs

def ofName (name : String) : Key :=
  match plainName name with
  | ['s'] => step
  | ['r'] => run
  | ['p'] => pause
  | ['b'] => breakpoint
  | ['x'] => reset
  | ['q'] => quit
  | ['u', 'p'] => up
  | ['d', 'o', 'w', 'n'] => down
  | _ => other

end Key

namespace Debugger

def ticksPerKey : Nat := 64

def press (d : Debugger) : Key → Debugger
  | .step => (d.setRunning false).step
  | .run => d.run
  | .pause => d.pause
  | .breakpoint => d.toggleBreakpoint
  | .reset => d.reset
  | .up => d.scrollUp
  | .down => d.scrollDown
  | .quit | .other => d

/-- What a key does, with the steps that follow it. -/
def handle (d : Debugger) (key : Key) : Debugger :=
  tickBatch ticksPerKey (d.press key)

/-- The debugger when it has handled the keys before the first that quits. -/
def handleAll (d : Debugger) (keys : List Key) : Debugger :=
  (keys.takeWhile (· != .quit)).foldl handle d

end Debugger

end CounterMachine
