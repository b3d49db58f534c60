import CounterMachine.Machine.Run
import CounterMachine.Report
import CounterMachine.SavedState.Encode
import CounterMachine.Source.Listing

/-!
# Playgrounds

A playground holds the machine of the program loaded last, or none, and answers
in texts and numbers. Running is given a budget of steps each time, so that the
surroundings stay responsive.
-/

namespace CounterMachine

structure Playground where
  machine? : Option Machine

inductive PlaygroundError where
  | load (error : LoadError)
  | nothingLoaded
  | step (error : StepError)

namespace Playground

def empty : Playground := ⟨none⟩

def load (source : String) : Except PlaygroundError (Nat × Playground) :=
  match Setup.load source with
  | .ok setup => .ok (setup.program.size, ⟨some setup.machine⟩)
  | .error e => .error (.load e)

def step (p : Playground) : Except PlaygroundError (String × Playground) :=
  match p.machine? with
  | none => .error .nothingLoaded
  | some m =>
    match m.step with
    | .ok (seen, m) => .ok (seen.text, ⟨some m⟩)
    | .error e => .error (.step e)

/-- Takes at most `budget` steps and gives the number of steps so far. A machine
that has halted stays as it is. -/
def run (p : Playground) (budget : Nat) : Except PlaygroundError (Nat × Playground) :=
  match p.machine? with
  | none => .error .nothingLoaded
  | some m =>
    if m.isRunning then
      let run := m.runLimited budget Machine.ignore ()
      match run.result with
      | .ok _ => .ok (run.machine.steps, ⟨some run.machine⟩)
      | .error e => .error (.step e)
    else .ok (m.steps, p)

def reset (p : Playground) : Playground := ⟨p.machine?.map Machine.reset⟩

def isRunning (p : Playground) : Bool := p.machine?.any Machine.isRunning

def label (p : Playground) : String := (p.machine?.map (·.label.text)).getD ""

def steps (p : Playground) : Nat := (p.machine?.map (·.steps)).getD 0

def status (p : Playground) : String := (p.machine?.map (·.status.name)).getD ""

def registers (p : Playground) : List String :=
  (p.machine?.map (·.registers.toList.map Nat.repr)).getD []

def stateJson (p : Playground) : String :=
  match p.machine? with
  | some m => m.snapshot.toJson.text .compact
  | none => Json.null.text .compact

def current (p : Playground) : String :=
  ((p.machine?.bind Machine.current?).map Instruction.text).getD ""

def check (source : String) : Except PlaygroundError Nat :=
  (load source).map (·.1)

def format (source : String) : Except PlaygroundError String :=
  match Setup.load source with
  | .ok setup => .ok (setup.listing?.getD "")
  | .error e => .error (.load e)

end Playground

end CounterMachine
