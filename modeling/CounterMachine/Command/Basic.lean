import CounterMachine.SavedState.Encode
import CounterMachine.Text.Decimal
import CounterMachine.Text.Pieces

/-!
# The command line

The four commands and their arguments. Options may stand before and after the
path of the program, each at most once; two dashes end them.
-/

namespace CounterMachine

inductive RunOutput where
  | trace
  | summary
  | json
deriving DecidableEq

inductive Command where
  | version
  | run (path : String) (maxSteps? : Option Nat) (output : RunOutput)
  | check (path : String)
  | format (path : String)
  | debug (path : String)
deriving DecidableEq

namespace Command

def path? : Command → Option String
  | version => none
  | run path _ _ => some path
  | check path => some path
  | format path => some path
  | debug path => some path

/-- What the arguments of a command have given so far. -/
structure Arguments where
  path? : Option String
  maxSteps? : Option Nat
  noTrace : Bool
  json : Bool
deriving DecidableEq

/-- A number of steps: digits, one plus sign before them, in 64 bits. -/
def stepCount? (cs : List Char) : Option Nat :=
  let digits := match cs with
    | '+' :: cs => cs
    | cs => cs
  match Text.numeral? digits with
  | some n => if n < wordBound then some n else none
  | none => none

namespace Arguments

def empty : Arguments := ⟨none, none, false, false⟩

def addPath (a : Arguments) (path : String) : Option Arguments :=
  if a.path?.isNone then some { a with path? := some path } else none

def addMaxSteps (a : Arguments) (value : List Char) : Option Arguments :=
  match a.maxSteps?, stepCount? value with
  | none, some n => some { a with maxSteps? := some n }
  | _, _ => none

def addFlag (a : Arguments) (name : List Char) : Option Arguments :=
  if name = "no-trace".toList ∧ a.noTrace = false then some { a with noTrace := true }
  else if name = "json".toList ∧ a.json = false then some { a with json := true }
  else none

end Arguments

/-- An argument by its form. -/
inductive Token where
  | endOfOptions
  | long (name : List Char) (value? : Option (List Char))
  | short (letter : Char) (rest : List Char)
  | plain

def Token.ofArgument (argument : String) : Token :=
  match argument.toList with
  | ['-', '-'] => .endOfOptions
  | '-' :: '-' :: cs =>
    match Text.cut? '=' cs with
    | some (name, value) => .long name (some value)
    | none => .long cs none
  | '-' :: c :: cs => .short c cs
  | _ => .plain

/-- The arguments of a command from the next one on. Only a run has options. -/
def readArguments (hasOptions : Bool) (a : Arguments) : List String → Option Arguments
  | [] => some a
  | x :: xs =>
    match Token.ofArgument x with
    | .plain => (a.addPath x).bind (readArguments hasOptions · xs)
    | .endOfOptions => xs.foldlM Arguments.addPath a
    | .long name value? =>
      if !hasOptions then none
      else if name = "max-steps".toList then
        match value?, xs with
        | some value, xs => (a.addMaxSteps value).bind (readArguments hasOptions · xs)
        | none, value :: xs =>
          match Token.ofArgument value with
          | .plain => (a.addMaxSteps value.toList).bind (readArguments hasOptions · xs)
          | _ => none
        | none, [] => none
      else
        match value? with
        | none => (a.addFlag name).bind (readArguments hasOptions · xs)
        | some _ => none
    | .short letter rest =>
      if !hasOptions ∨ letter ≠ 'm' then none
      else
        match rest, xs with
        | '=' :: value, xs => (a.addMaxSteps value).bind (readArguments hasOptions · xs)
        | [], value :: xs =>
          match Token.ofArgument value with
          | .plain => (a.addMaxSteps value.toList).bind (readArguments hasOptions · xs)
          | _ => none
        | value, xs => (a.addMaxSteps value).bind (readArguments hasOptions · xs)

def Arguments.output (a : Arguments) : RunOutput :=
  if a.json then .json else if a.noTrace then .summary else .trace

def ofArguments? : List String → Option Command
  | [] => none
  | name :: rest =>
    match Token.ofArgument name with
    | .short 'V' _ => some version
    | .long ['v', 'e', 'r', 's', 'i', 'o', 'n'] none => some version
    | _ =>
      if name = "run" then do
        let a ← readArguments true .empty rest
        return run (← a.path?) a.maxSteps? a.output
      else if name = "check" then do
        let a ← readArguments false .empty rest
        return check (← a.path?)
      else if name = "fmt" then do
        let a ← readArguments false .empty rest
        return format (← a.path?)
      else if name = "debug" then do
        let a ← readArguments false .empty rest
        return debug (← a.path?)
      else none

end Command

end CounterMachine
