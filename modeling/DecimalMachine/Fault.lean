import DecimalMachine.Text.Casing
import DecimalMachine.Text.Decimal
import DecimalMachine.Text.Quoted

/-!
# Faults of the machine

A fault is a cause together with the values that locate it; its wording is in one place. Every fault
ends the machine that meets it.
-/

namespace DecimalMachine

open Text

/-- Why a machine cannot go on, or cannot be built. Models `intcode.errors.MachineError` and the six
classes below it; specification 7. -/
inductive Fault where
  /-- A read, a write or a jump to an address outside a program of the given length. -/
  | outOfBounds (address length : Int)
  /-- A word that names no operation. -/
  | unknownOperation (opcode : Int) (address : Option Int)
  /-- A mode that its operand does not admit. -/
  | badMode (mode : Int) (address : Option Int) (reason : String)
  /-- A piece of program text that is no signed decimal integer. -/
  | badToken (token : String) (position : Int)
  /-- A program counter outside the program before the machine has halted. -/
  | ranOff (pc length : Int)
  /-- An input for a machine that has halted. -/
  | fedAfterHalt (value : Int)
  deriving DecidableEq, Repr

namespace Fault

/-- The reason given for a mode without a meaning. -/
def unknownMode : String := "unknown addressing mode"

/-- The reason given for a destination that is not an address. From
`intcode.machine.Machine._destination`. -/
def immediateDestination : String := "immediate-mode destination"

/-- Where a fault lies, if that is known. -/
def place : Option Int → String
  | none => ""
  | some address => " at " ++ decimal address

/-- How it is told that a machine which has halted refuses an input. From
`intcode.errors.FeedAfterTerminated`. -/
def refusedInput (input : String) : String :=
  "Attempted to feed input " ++ input ++ " to a terminated machine"

/-- How a fault is told. The messages of the classes in `intcode.errors`. -/
def message : Fault → String
  | outOfBounds address length =>
    "Address " ++ decimal address ++ " out of bounds (program length is " ++ decimal length ++ ")"
  | unknownOperation opcode address => "Unknown opcode " ++ decimal opcode ++ place address
  | badMode mode address reason => capitalize reason ++ " " ++ decimal mode ++ place address
  | badToken token position =>
    "Token " ++ decimal position ++ ": " ++ quoted token ++ " is not a signed decimal integer"
  | ranOff pc length =>
    "Program counter " ++ decimal pc ++ " ran off the end of the program (length " ++
      decimal length ++ ") without a HALT"
  | fedAfterHalt value => refusedInput (decimal value)

end Fault
end DecimalMachine
