import DecimalMachine.CommandLine.Files
import DecimalMachine.CommandLine.Help
import DecimalMachine.Listing
import DecimalMachine.Log.Session
import DecimalMachine.Machine.Call
import DecimalMachine.Mixed.Search

/-!
# Commands

Carrying out a command gives a report: the lines it prints, the file it writes, the records it logs, and
an exit code or a failure. Failures have exit codes and wordings of their own. A void among the inputs,
or for a signal, which only the releases of `argparse` before 3.11.9 and 3.12.3 let pass, makes the
machines mixed ones. `none` stands for a program that does not stop within the allowance.
-/

namespace DecimalMachine.CommandLine

open Text

/-- Why a command fails. What `intcodekit.main` catches; specification 12. -/
inductive Failure where
  | file (path : String) (fault : FileFault)
  | encoding (fault : Utf8.Fault)
  | value (fault : ValueFault)
  | machine (fault : Fault)
  | breach (breach : Breach)
  /-- A void for a machine that has halted. -/
  | voidAfterHalt
  | clash (clash : Clash)
  deriving DecidableEq, Repr

namespace Failure

/-- The failure of a chain as that of a command. -/
def ofChain : Chain.Failure → Failure
  | .machine f => machine f
  | .breach b => breach b

/-- The trouble of mixed machines as the failure of a command. -/
def ofTrouble : Mixed.Trouble → Failure
  | .fault f => machine f
  | .breach b => breach b
  | .voidAfterHalt => voidAfterHalt
  | .clash c => clash c

/-- How a failure is told, without saying that it is one. -/
def message : Failure → String
  | file path .missing => "File not found: " ++ path
  | file _ .nullCharacter => FileFault.nullCharacter.words
  | file path f => f.message path
  | encoding f => f.message
  | value f => f.message
  | machine f => f.message
  | breach b => b.message
  | voidAfterHalt => Fault.refusedInput Datum.void.text
  | clash c => c.message

/-- A failure of the surroundings, or a clash, is none that the program is prepared for. -/
def isInternal : Failure → Bool
  | file _ .missing => false
  | file _ .nullCharacter => false
  | file _ _ => true
  | clash _ => true
  | _ => false

/-- Failures of machines and chains are logged. -/
def isLogged : Failure → Bool
  | machine _ => true
  | breach _ => true
  | voidAfterHalt => true
  | _ => false

/-- The exit code of a failure. Models `intcodekit.EXIT_ERROR` and `intcodekit.EXIT_INTERNAL`. -/
def exitCode (f : Failure) : Nat := if f.isInternal then 2 else 1

/-- The line that reports a failure. -/
def line (f : Failure) : String :=
  (if f.isInternal then "Internal error: " else "Error: ") ++ f.message

end Failure

/-- What a command does. -/
structure Report where
  out : List String
  err : List String
  /-- A file written, with its path and its text. -/
  written : Option (String × String)
  records : Array Log.Record
  result : Except Failure Nat

namespace Report

/-- A command that only fails. -/
def failed (f : Failure) : Report := ⟨[], [], none, #[], .error f⟩

/-- A command that only prints. -/
def printed (lines : List String) : Report := ⟨lines, [], none, #[], .ok 0⟩

end Report

/-- The exit code of a program that waits for more input. Models `intcodekit.EXIT_WAITING`. -/
def waitingCode : Nat := 3

/-- The source of the records that commands log. -/
def recordSource : String := "intcode.cli"

/-- The text of a program file. Models `intcodekit.read_program_text`. -/
def readProgram (files : Files) (path : String) : Except Failure String := do
  let path := normalPath path
  let bytes ← (files.read path).mapError (.file path)
  (Program.ofBytes bytes).mapError .encoding

/-- The program text in a file is that of its content. -/
theorem readProgram_of_content {files : Files} {path content : String}
    (file : files.read (normalPath path) = .ok content.toUTF8) :
    readProgram files path = .ok (Program.filter content) := by
  have text : Program.ofBytes content.toUTF8 = .ok (Program.filter content) := by
    rw [Program.ofBytes, Utf8.decode_toUTF8]
    rfl
  simp only [readProgram, file]
  show (Program.ofBytes content.toUTF8).mapError Failure.encoding = _
  rw [text]
  rfl

/-- A machine that has run, as far as a report shows it. -/
structure Ran where
  result : Except Failure State
  pc : Int
  outputs : List String
  trace : List String
  records : Array Log.Record
  /-- The text of the cell at an address. -/
  cell : Datum → Except Failure String

namespace Ran

/-- The run of a machine. -/
def ofResponse (r : Response State) : Ran where
  result := r.result.mapError .machine
  pc := r.machine.pc
  outputs := r.machine.outputs.toList.map decimal
  trace := r.machine.trace.toList
  records := r.events.map Event.record
  cell a := do
    let a ← a.asNumber.mapError .clash
    let v ← (r.machine.peek a).mapError .machine
    return decimal v

/-- The run of a mixed machine. -/
def ofMixed (r : Mixed.Response State) : Ran where
  result := r.result.mapError .ofTrouble
  pc := r.machine.pc
  outputs := r.machine.outputs.toList.map Datum.text
  trace := r.machine.trace.toList
  records := r.records
  cell a := ((r.machine.read a).mapError .ofTrouble).map Datum.text

/-- The lines that show cells, up to the first address without one. -/
def cellLines (r : Ran) : List Datum → List String × Option Failure
  | [] => ([], none)
  | a :: rest =>
    match r.cell a with
    | .error f => ([], some f)
    | .ok v =>
      let (lines, failure) := r.cellLines rest
      (("[" ++ a.text ++ "] = " ++ v) :: lines, failure)

end Ran

namespace RunRequest

/-- The address and the value of a patch. -/
def patchOf : Option String → Except Failure (Int × Int)
  | none => .error (.clash .notText)
  | some text => (readPatch text).mapError .value

/-- The machine that is to run: the program with its cells patched in order, and the inputs unless
there are voids among them. -/
def machine (files : Files) (r : RunRequest) : Except Failure Machine := do
  let text ← readProgram files r.program
  let patches ← r.pokes.mapM patchOf
  let inputs := (Datum.numbers? r.inputs).getD []
  let m ← (Machine.ofText text inputs r.trace).mapError .machine
  (patches.foldlM (fun (m : Machine) p ↦ m.poke p.1 p.2) m).mapError .machine

/-- Runs the machine, which is a mixed one if there are voids among the inputs. -/
def run (console : Log.Level) (allowance : Nat) (r : RunRequest) (m : Machine) : Option Ran :=
  match Datum.numbers? r.inputs with
  | some _ => (m.run allowance).map Ran.ofResponse
  | none =>
    ({ Mixed.ofMachine console m with inputs := r.inputs }.run allowance).map Ran.ofMixed

/-- The record of a program that has run. -/
def ranRecord (r : RunRequest) (s : State) (outputs : Nat) : Log.Record :=
  ⟨Log.Level.info, recordSource,
    r.program ++ ": " ++ s.name ++ ", " ++ toString outputs ++ " outputs"⟩

/-- The report of a machine that has run: its trace and its outputs in any case, then its cells. -/
def report (r : RunRequest) (ran : Ran) : Report :=
  match ran.result with
  | .error f => ⟨ran.outputs, ran.trace, none, ran.records, .error f⟩
  | .ok s =>
    match ran.cellLines r.peeks with
    | (lines, some f) => ⟨ran.outputs ++ lines, ran.trace, none, ran.records, .error f⟩
    | (lines, none) =>
      let records := ran.records.push (r.ranRecord s ran.outputs.length)
      if s = .waitingForInput then
        ⟨ran.outputs ++ lines,
          ran.trace ++ ["Program is waiting for input at pc=" ++ decimal ran.pc], none, records,
          .ok waitingCode⟩
      else ⟨ran.outputs ++ lines, ran.trace, none, records, .ok 0⟩

/-- Carries out the command. Models `intcodekit.cmd_run`; specification 6. -/
def execute (console : Log.Level) (allowance : Nat) (files : Files) (r : RunRequest) :
    Option Report :=
  match r.machine files with
  | .error f => some (.failed f)
  | .ok m => (r.run console allowance m).map r.report

end RunRequest

namespace ListRequest

/-- The listing of the program. -/
def listing (files : Files) (r : ListRequest) : Except Failure String := do
  let text ← readProgram files r.program
  let m ← (Listing.memoryOf text).mapError .machine
  return Listing.text m

/-- Carries out the command. An empty path asks for no file. Models `intcodekit.cmd_disasm`;
specification 6. -/
def execute (files : Files) (r : ListRequest) : Report :=
  match r.listing files with
  | .error f => .failed f
  | .ok listing =>
    match r.output.filter (· ≠ "") with
    | none => .printed [listing]
    | some path =>
      match files.refusal path with
      | some f => .failed (.file path f)
      | none =>
        { Report.printed ["Disassembled " ++ r.program ++ " -> " ++ path] with
          written := some (path, listing ++ "\n") }

end ListRequest

namespace AmplifyRequest

/-- The phases to be ordered: those given, or those of the profile if none or an empty text is. -/
def chosenPhases (r : AmplifyRequest) (p : Profile) : Except ValueFault (List Int) :=
  match r.phases.filter (· ≠ "") with
  | none => .ok p.phases
  | some text => readPhases text

/-- The record of the profile used. -/
def profileRecord (p : Profile) : Log.Record :=
  ⟨Log.Level.info, recordSource, "Profile: " ++ p.name ++ " — " ++ p.description⟩

/-- The program, the profile and the phases. -/
def problem (files : Files) (r : AmplifyRequest) : Except Failure (String × Profile × List Int) := do
  let text ← readProgram files r.program
  match r.profile with
  | none => .error (.clash .notName)
  | some p =>
    let phases ← (r.chosenPhases p).mapError .value
    return (text, p, phases)

/-- Searches for the greatest signal: the text of it and its ordering of the phases, with the records
on the way. -/
def search (console : Log.Level) (allowance : Nat) (r : AmplifyRequest) (program : String)
    (phases : List Int) (feedback : Bool) :
    Option (Except Failure (String × List Int) × Array Log.Record) :=
  match r.signal with
  | .number signal =>
    (Best.search allowance program phases feedback signal).map fun (found, events) ↦
      ((found.mapError .ofChain).map fun b ↦ (decimal b.signal, b.phases),
        events.map Chain.Event.record)
  | .void =>
    (Mixed.search console allowance program phases feedback .void).map fun (found, records) ↦
      ((found.mapError .ofTrouble).map fun f ↦ (f.signal.text, f.phases), records)

/-- The line that shows an ordering of phases. -/
def phasesLine (phases : List Int) : String := "phases " ++ ",".intercalate (phases.map decimal)

/-- The report of a search with a profile. -/
def report (p : Profile) (found : Except Failure (String × List Int)) (records : Array Log.Record) :
    Report :=
  let records := #[profileRecord p] ++ records
  match found with
  | .error f => ⟨[], [], none, records, .error f⟩
  | .ok (signal, phases) => ⟨[signal, phasesLine phases], [], none, records, .ok 0⟩

/-- Carries out the command. Models `intcodekit.cmd_amplify`; specification 6. -/
def execute (console : Log.Level) (allowance : Nat) (files : Files) (r : AmplifyRequest) :
    Option Report :=
  match r.problem files with
  | .error f => some (.failed f)
  | .ok (text, p, phases) =>
    (r.search console allowance text phases p.feedback).map fun (found, records) ↦
      report p found records

end AmplifyRequest

namespace Command

/-- The name of a command. -/
def name : Command → String
  | run _ => "run"
  | list _ => "disasm"
  | amplify _ => "amplify"

/-- The path of the program that a command is about. -/
def program : Command → String
  | run r => r.program
  | list r => r.program
  | amplify r => r.program

/-- Carries out a command, with a console that shows records from a level on. -/
def execute (console : Log.Level) (allowance : Nat) (files : Files) : Command → Option Report
  | run r => r.execute console allowance files
  | list r => some (r.execute files)
  | amplify r => r.execute console allowance files

end Command

/-- What carrying out an invocation comes to. -/
structure Outcome where
  exitCode : Nat
  out : List String
  err : List String
  written : Option (String × String)
  logger : Log.Logger

namespace Outcome

/-- What an outcome shows on the outside, its complaints aside: the exit code and the printed lines. -/
def shown (o : Outcome) : Nat × List String := (o.exitCode, o.out)

/-- The file that an outcome adds to a tree, if that is in the working directory. -/
def created (o : Outcome) (t : FileTree) : Option (List String × String) :=
  match o.written with
  | none => none
  | some (path, text) =>
    match t.target? path with
    | none => none
    | some names => if t.files.any (·.1 = names) then none else some (names, text)

/-- The directories of the working directory that an outcome logs to, with their records. -/
def logs (o : Outcome) (t : FileTree) : List (List String × Array Log.Record) :=
  o.logger.files.filterMap fun p ↦ (t.directory? p.1).map fun names ↦ (names, p.2)

end Outcome

namespace Invocation

/-- The name of the logger. Models `intcode.config.LOGGER_NAME`. -/
def loggerName : String := "intcode"

/-- The logger that an invocation sets up. Its file has no stamp. -/
def logger (i : Invocation) : Log.Logger :=
  (Log.Logger.fresh loggerName).openSession
    ⟨Log.Level.debug, levelFor i.verbosity, i.logDirectory, "", true⟩

/-- The record of a failed command. -/
def failureRecord (i : Invocation) (f : Failure) : Log.Record :=
  ⟨Log.Level.debug, recordSource, i.command.name ++ " failed: " ++ f.message⟩

/-- The outcome of a report: failures become a line and an exit code. The handlers of
`intcodekit.main`; specification 12. -/
def outcome (i : Invocation) (r : Report) : Outcome :=
  let logged := r.records.foldl Log.Logger.record i.logger
  match r.result with
  | .ok code => ⟨code, r.out, r.err, r.written, logged⟩
  | .error f =>
    let logger := if f.isLogged then logged.record (i.failureRecord f) else logged
    ⟨f.exitCode, r.out, r.err ++ [f.line], r.written, logger⟩

/-- Carries out an invocation. -/
def execute (allowance : Nat) (files : Files) (i : Invocation) : Option Outcome :=
  (i.command.execute (levelFor i.verbosity) allowance files).map i.outcome

/-- The tree in which an invocation is carried out, where the directory of the log is made first; or the
path at which it cannot be made, and why. -/
def prepare (t : FileTree) (i : Invocation) : Except (String × FileFault) FileTree :=
  match i.logDirectory with
  | none => .ok t
  | some path => t.withDirectory path

end Invocation

/-- The outcome of nothing but printing. -/
def Outcome.printed (code : Nat) (out err : List String) : Outcome :=
  ⟨code, out, err, none, Log.Logger.fresh Invocation.loggerName⟩

/-- What arguments come to. Help, the version and complaints are only printed. For anything else the
directory of the log is made first, if there is to be one, which `prepare` does: it gives the files
that there are then, or the line that reports why the directory cannot be made. Models
`intcodekit.main`. -/
def Asked.outcome (allowance : Nat) (prepare : Option String → Except String Files) :
    Asked → Option Outcome
  | help command => some (.printed 0 (CommandLine.help command) [])
  | version => some (.printed 0 [programName ++ " " ++ CommandLine.version] [])
  | wrong command c => some (.printed 2 [] [complaintLine command c])
  | invocation i =>
    match prepare i.logDirectory with
    | .error line => some (.printed 1 [] [line])
    | .ok files => i.execute allowance files

/-- The text of printed lines. -/
def linesText (lines : List String) : String := String.join (lines.map (· ++ "\n"))

/-- The text of one line. -/
theorem linesText_singleton (line : String) : linesText [line] = line ++ "\n" := by
  simp [linesText]

end DecimalMachine.CommandLine
