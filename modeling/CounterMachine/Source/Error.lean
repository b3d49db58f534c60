import CounterMachine.Label
import CounterMachine.Registers

/-!
# Errors of loading

Each way in which program text fails to be a program, with what is said about
it. Line numbers count from one.
-/

namespace CounterMachine

inductive ReadFailure where
  | notFound
  | isDirectory
  | notADirectory
  | nameTooLong
  | nullInPath
  | notText
  | other (reason : String)
deriving DecidableEq, Inhabited

inductive Operation where
  | increment
  | decrement
deriving DecidableEq, Inhabited

inductive LoadError where
  | unreadable (path : String) (failure : ReadFailure)
  | noConfiguration
  | configuration (line : Nat) (text : String)
  | instruction (line : Nat) (text : String)
  | duplicateLabel (line : Nat) (label : Label) (first : Nat)
  | operation (line : Nat) (text : String)
  | registerRange (line : Nat) (digits : String)
  | unknownOperation (line : Nat) (name : String)
  | arity (line : Nat) (operation : Operation) (found : Nat)
deriving DecidableEq

namespace ReadFailure

def message : ReadFailure → String
  | notFound => "No such file or directory (os error 2)"
  | isDirectory => "Is a directory (os error 21)"
  | notADirectory => "Not a directory (os error 20)"
  | nameTooLong => "File name too long (os error 36)"
  | nullInPath => "file name contained an unexpected NUL byte"
  | notText => "stream did not contain valid UTF-8"
  | other reason => reason

end ReadFailure

namespace Operation

def name : Operation → String
  | increment => "inc"
  | decrement => "dec"

def arity : Operation → Nat
  | increment => 1
  | decrement => 2

def ofName? (name : List Char) : Option Operation :=
  if name = ['i', 'n', 'c'] then some increment
  else if name = ['d', 'e', 'c'] then some decrement
  else none

theorem ofName?_eq_some_iff {cs : List Char} {o : Operation} :
    ofName? cs = some o ↔ cs = o.name.toList := by
  unfold ofName?
  cases o <;> split <;> simp_all [name]

end Operation

namespace LoadError

def message : LoadError → String
  | unreadable path failure => "I/O error: " ++ path ++ ": " ++ failure.message
  | noConfiguration => "invalid initial configuration: no configuration line found"
  | configuration line text =>
    "invalid initial configuration on line " ++ line.repr
      ++ ": expected `start label, register values...`, found `" ++ text ++ "`"
  | instruction line text =>
    "invalid instruction format on line " ++ line.repr ++ ": `" ++ text
      ++ "` (expected `label: operation, ...arguments`)"
  | duplicateLabel line label first =>
    "duplicate label on line " ++ line.repr ++ ": `" ++ label.text
      ++ "` already defined on line " ++ first.repr
  | operation line text =>
    "invalid operation on line " ++ line.repr ++ ": `" ++ text ++ "` (expected `name(rN)`)"
  | registerRange line digits =>
    "register out of range on line " ++ line.repr ++ ": `r" ++ digits
      ++ "` (highest is r" ++ Registers.highest.repr ++ ")"
  | unknownOperation line name =>
    "unknown operation on line " ++ line.repr ++ ": `" ++ name ++ "`"
  | arity line op found =>
    "wrong number of arguments on line " ++ line.repr ++ ": `" ++ op.name
      ++ "` takes " ++ op.arity.repr ++ ", found " ++ found.repr

def line? : LoadError → Option Nat
  | unreadable .. | noConfiguration => none
  | configuration n _ | instruction n _ | duplicateLabel n _ _ | operation n _
  | registerRange n _ | unknownOperation n _ | arity n _ _ => some n

end LoadError

end CounterMachine
