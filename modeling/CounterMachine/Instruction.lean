import CounterMachine.Label

/-!
# Instructions

A counter machine knows three instructions: add one to a register, take one
from a register unless it is zero, and halt. Each but the last names the
labels where control goes next.
-/

namespace CounterMachine

inductive Instruction where
  | halt
  /-- Add one to the register and go to `next`. -/
  | increment (register : Nat) (next : Label)
  /-- Take one from the register and go to `nonzero`, or go to `zero` if there
  is nothing to take. -/
  | decrement (register : Nat) (nonzero zero : Label)
deriving DecidableEq, Inhabited

namespace Instruction

def register? : Instruction → Option Nat
  | halt => none
  | increment r _ => some r
  | decrement r _ _ => some r

def targets : Instruction → List Label
  | halt => []
  | increment _ next => [next]
  | decrement _ nonzero zero => [nonzero, zero]

def isHalt : Instruction → Bool
  | halt => true
  | _ => false

def text : Instruction → String
  | halt => "halt"
  | increment r next => "inc(r" ++ r.repr ++ "), " ++ next.text
  | decrement r nonzero zero => "dec(r" ++ r.repr ++ "), " ++ nonzero.text ++ ", " ++ zero.text

end Instruction

end CounterMachine
