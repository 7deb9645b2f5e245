import DecimalMachine.CommandLine.Commands

/-!
# The program

The outer layer: it opens the files that the arguments name, carries out what they ask for, and prints
what comes of it. It decides nothing itself.
-/

open DecimalMachine DecimalMachine.CommandLine

/-- The fault that the system reports, by a number that may come with its sign turned. -/
def faultOf : IO.Error → FileFault
  | .noFileOrDirectory _ _ _ => .missing
  | .inappropriateType _ number _ =>
    if number = 20 ∨ 0 - number = 20 then .notDirectory else .isDirectory
  | e => .other 0 (toString e)

/-- The bytes of a file. -/
def openProgram (path : String) : IO (Except FileFault ByteArray) := do
  match FileTree.textFault? path with
  | some f => return .error f
  | none =>
    try
      return .ok (← IO.FS.readBinFile path)
    catch e => return .error (faultOf e)

/-- Writes a file, and gives the fault that kept it from being written. -/
def writeListing (path text : String) : IO (Option FileFault) := do
  match FileTree.textFault? path with
  | some f => return some f
  | none =>
    try
      IO.FS.writeFile path text
      return none
    catch e => return some (faultOf e)

/-- Makes the directory of a log, and gives the line that reports why it cannot be made. -/
def makeDirectory (path : String) : IO (Option String) := do
  let path := normalPath path
  match FileTree.textFault? path with
  | some f => return some (f.message path)
  | none =>
    try
      IO.FS.createDirAll path
      return none
    catch e => return some ((faultOf e).message path)

/-- The files around what is asked for, when the directory of its log is made and its program is opened;
or the line that reports why the directory cannot be made. -/
def surroundings : Asked → IO (Except String Files)
  | .invocation i => do
    if let some directory := i.logDirectory then
      if let some line ← makeDirectory directory then return .error line
    let program ← openProgram (normalPath i.command.program)
    return .ok ⟨fun _ ↦ program, fun _ ↦ none⟩
  | _ => return .ok ⟨fun _ ↦ .error .missing, fun _ ↦ none⟩

/-- How many steps a program may take. -/
def allowance : Nat := 0x4000000000000000

/-- What is asked for, carried out among its files, with the file written that it asks for. If that fails
it is carried out again in the knowledge of it. -/
def carryOut (a : Asked) (files : Except String Files) : IO (Option Outcome) := do
  let outcome := a.outcome allowance fun _ ↦ files
  match outcome.bind Outcome.written with
  | none => return outcome
  | some (path, text) =>
    match ← writeListing path text with
    | none => return outcome
    | some f =>
      return a.outcome allowance fun _ ↦ files.map fun files ↦ { files with refusal := fun _ ↦ some f }

/-- Writes the records of a logger into its directories. -/
def writeLogs (l : Log.Logger) : IO Unit := do
  for (directory, records) in l.files do
    let handle ← IO.FS.Handle.mk (Text.pathIn directory (l.name ++ ".log")) .append
    handle.putStr (linesText (records.toList.map Log.Record.line))

/-- Reads the arguments and does what they ask for. -/
def main (args : List String) : IO UInt32 := do
  let a := asked args
  match ← carryOut a (← surroundings a) with
  | none => return 2
  | some outcome =>
    writeLogs outcome.logger
    IO.eprint (linesText outcome.err)
    IO.print (linesText outcome.out)
    return outcome.exitCode.toUInt32
