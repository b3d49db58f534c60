import CounterMachine.Machine.Run
import CounterMachine.Source.Configuration
import CounterMachine.Source.Definition

/-!
# Loading

The first significant line of a text is the initial configuration, the others
are definitions. Loading gives both or the first error.
-/

namespace CounterMachine

/-- A program together with the configuration it starts from. -/
structure Setup where
  config : Configuration
  program : Program
deriving DecidableEq

namespace Setup

def ofLines : List Line → Except LoadError Setup
  | [] => .error .noConfiguration
  | first :: rest =>
    match Configuration.ofLine first with
    | .error e => .error e
    | .ok config => (Program.ofLines rest).map (⟨config, ·⟩)

def load (source : String) : Except LoadError Setup :=
  ofLines (significantLines source)

def machine (setup : Setup) : Machine :=
  .start setup.program setup.config.startLabel setup.config.registers

def execute (setup : Setup) : Except ExecuteError (Outcome × List Snapshot) :=
  setup.program.execute setup.config.startLabel setup.config.registers

end Setup

end CounterMachine
