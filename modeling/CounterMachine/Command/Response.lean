import CounterMachine.Command.Basic
import CounterMachine.Debugger.Basic
import CounterMachine.Report
import CounterMachine.Source.File
import CounterMachine.Source.Listing

/-!
# What commands answer

Each command but the debugger answers with an exit code and two texts. The
answer is a function of the command and the files it reads.
-/

namespace CounterMachine

structure Response where
  code : Nat
  stdout : String
  stderr : String
deriving DecidableEq

/-- What becomes of a command: an answer, or the debugger waiting for keys. -/
inductive Reply where
  | response (response : Response)
  | debugger (debugger : Debugger)

namespace Response

def success (stdout : String) : Response := ⟨0, stdout, ""⟩

def failure (stdout message : String) : Response := ⟨1, stdout, "error: " ++ message ++ "\n"⟩

def version : Response := success "minsky 0.1.0\n"

def outOfSteps (stdout : String) (m : Machine) : Response where
  code := 2
  stdout := stdout
  stderr := "stopped after " ++ m.steps.repr ++ " steps at label " ++ m.label.text
    ++ " without halting (--max-steps)\nregister state: " ++ m.registers.text ++ "\n"

variable {σ : Type}

/-- A run with a number of steps, or to the halt. -/
def drive (m : Machine) (maxSteps? : Option Nat) (observe : σ → Snapshot → σ) (seen : σ) :
    Run σ (Option Outcome) :=
  match maxSteps? with
  | some n => m.runLimited n observe seen
  | none => (m.run observe seen).map some

/-- The answer to a run, from what is printed along the way and at the halt. -/
def ofRun (printed : σ → String) (ending : σ → Outcome → String)
    (run : Run σ (Option Outcome)) : Response :=
  match run.result with
  | .error e => failure (printed run.seen) e.message
  | .ok (some outcome) => success (printed run.seen ++ ending run.seen outcome)
  | .ok none => outOfSteps (printed run.seen) run.machine

def run (setup : Setup) (maxSteps? : Option Nat) : RunOutput → Response
  | .trace =>
    let printed := Report.header ++ "\n"
    ofRun id (fun _ outcome => outcome.summary) <|
      drive setup.machine maxSteps? (fun out seen => out ++ seen.text ++ "\n") printed
  | .summary =>
    ofRun (fun _ => "") (fun _ outcome => outcome.summary) <|
      drive setup.machine maxSteps? Machine.ignore ()
  | .json =>
    ofRun (fun _ => "") (fun trace outcome => Report.jsonText trace.toList outcome ++ "\n") <|
      drive setup.machine maxSteps? Machine.record #[]

/-- Which labels that control may come to are missing from a program. -/
def notes (setup : Setup) : String :=
  let start := setup.config.startLabel
  let missing := setup.program.undefinedTargets?.getD []
  (if setup.program.defines start then ""
      else "note: start label " ++ start.text ++ " is undefined\n")
    ++ (if missing = [] then ""
      else "note: jumps to undefined labels halt erroneously: "
        ++ ", ".intercalate (missing.map (·.text)) ++ "\n")

def check (path : String) (setup : Setup) : Response :=
  let program := setup.program
  success <| "ok: " ++ path ++ "\n"
    ++ "start label:   " ++ setup.config.startLabel.text ++ "\n"
    ++ "registers:     " ++ setup.config.registers.text ++ "\n"
    ++ "instructions:  " ++ program.size.repr ++ "\n"
    ++ (match program.highestRegister? with
      | some r => "highest register used: r" ++ r.repr ++ "\n"
      | none => "")
    ++ notes setup

end Response

namespace Command

def replyWith (read : String → Except ReadFailure ByteArray) (path : String)
    (answer : Setup → Reply) : Reply :=
  match Setup.ofFile read path with
  | .ok setup => answer setup
  | .error e => .response (.failure "" e.message)

/-- What becomes of a command, when files are read by `read`. -/
def reply (read : String → Except ReadFailure ByteArray) : Command → Reply
  | version => .response .version
  | run path maxSteps? output =>
    replyWith read path fun setup => .response (.run setup maxSteps? output)
  | check path => replyWith read path fun setup => .response (.check path setup)
  | format path =>
    replyWith read path fun setup => .response (.success (setup.listing?.getD ""))
  | debug path => replyWith read path fun setup => .debugger (.ofSetup setup)

end Command

end CounterMachine
