import DecimalMachine.Log.Record
import DecimalMachine.Text.Numeral

/-!
# Values of options

Some options hold values that are taken apart only when their command is carried out: a cell with its
new value, and a list of phases.
-/

namespace DecimalMachine.CommandLine

open Text

/-- Why the value of an option cannot be used. -/
inductive ValueFault where
  /-- A cell and its value need an equals sign between them. -/
  | noEquals (text : String)
  | notAnInteger (fault : NotAnInteger)
  deriving DecidableEq, Repr

/-- How an unusable value is reported. -/
def ValueFault.message : ValueFault → String
  | noEquals text => "--poke expects ADDR=VALUE, got " ++ quoted text
  | notAnInteger e => e.message

/-- The integer in a text that is part of a value. -/
def integer (cs : List Char) : Except ValueFault Int :=
  (readInteger (String.ofList cs)).mapError .notAnInteger

/-- An address and a value, on either side of the first equals sign. Models
`intcodekit._parse_poke`. -/
def readPatch (s : String) : Except ValueFault (Int × Int) := do
  let cs := s.toList
  match cs.dropWhile (· ≠ '=') with
  | [] => .error (.noEquals s)
  | _ :: value =>
    let address ← integer (cs.takeWhile (· ≠ '='))
    let value ← integer value
    return (address, value)

/-- Integers with commas between them; blank pieces are skipped. Models `intcodekit._parse_phases`. -/
def readPhases (s : String) : Except ValueFault (List Int) :=
  ((s.toList.splitOn ',').filter fun piece ↦ trim isBlank piece ≠ []).mapM integer

/-- The level from which on records go to the console, for so many requests to be verbose. Models
`intcodekit._console_level`. -/
def levelFor (verbosity : Nat) : Log.Level :=
  if verbosity = 0 then Log.Level.warning
  else if verbosity = 1 then Log.Level.info
  else Log.Level.debug

end DecimalMachine.CommandLine
