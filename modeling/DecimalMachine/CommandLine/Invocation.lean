import DecimalMachine.Amplifier.Search
import DecimalMachine.CommandLine.Options
import DecimalMachine.CommandLine.Values
import DecimalMachine.Mixed.Datum

/-!
# Invocations

What the arguments ask for: help, the version, or one of three commands with its options. Options before
the command concern all commands. An option may be given without its value, as in the releases of
`argparse` before 3.11.9 and 3.12.3 that the rules for options follow: then an integer is void, and a text
that need not be given counts as not given.
-/

namespace DecimalMachine.CommandLine

open Text

/-- The name of the program on the command line. -/
def programName : String := "intcodekit"

/-- The version of the program. -/
def version : String := "0.1.0"

/-- The directory of the log file when only a log file is asked for. Models `intcode.config.LOG_DIR`,
from the working directory. -/
def usualLogDirectory : String := "logs"

/-- Runs a program file. A patch may be given without its text. -/
structure RunRequest where
  program : String
  inputs : List Datum
  pokes : List (Option String)
  peeks : List Datum
  trace : Bool
  deriving DecidableEq, Repr

/-- Lists a program file. -/
structure ListRequest where
  program : String
  output : Option String
  deriving DecidableEq, Repr

/-- Searches the phases of a chain over a program file. The profile may be given without its name. -/
structure AmplifyRequest where
  program : String
  profile : Option Profile
  phases : Option String
  signal : Datum
  deriving DecidableEq, Repr

/-- A command with its options. -/
inductive Command where
  | run (r : RunRequest)
  | list (r : ListRequest)
  | amplify (r : AmplifyRequest)
  deriving DecidableEq, Repr

/-- A command with the options that concern all commands. -/
structure Invocation where
  verbosity : Nat
  logDirectory : Option String
  command : Command
  deriving DecidableEq, Repr

/-- What the arguments ask for. -/
inductive Asked where
  /-- Help on a command, or on all. -/
  | help (command : Option String)
  | version
  | invocation (i : Invocation)
  /-- A complaint, made by the program or by one of its commands. -/
  | wrong (command : Option String) (complaint : Complaint)
  deriving DecidableEq, Repr

/-- The line that reports a complaint. -/
def complaintLine (command : Option String) (c : Complaint) : String :=
  programName ++ command.elim "" (" " ++ ·) ++ ": error: " ++ c.message

/-! ## Options -/

def helpOption : OptionSpec := ⟨["-h", "--help"], false⟩
def versionOption : OptionSpec := ⟨["--version"], false⟩
def verboseOption : OptionSpec := ⟨["--verbose", "-v"], false⟩
def logOption : OptionSpec := ⟨["--log"], false⟩
def logDirectoryOption : OptionSpec := ⟨["--log-dir"], true⟩
def inputOption : OptionSpec := ⟨["-i", "--input"], true⟩
def pokeOption : OptionSpec := ⟨["--poke"], true⟩
def peekOption : OptionSpec := ⟨["--peek"], true⟩
def traceOption : OptionSpec := ⟨["--trace"], false⟩
def outputOption : OptionSpec := ⟨["-o", "--output"], true⟩
def profileOption : OptionSpec := ⟨["--profile"], true⟩
def phasesOption : OptionSpec := ⟨["--phases"], true⟩
def signalOption : OptionSpec := ⟨["--signal"], true⟩

/-- The options before the command. Models `intcodekit.build_parser`; specification 6. -/
def mainGrammar : Grammar where
  options := [helpOption, versionOption, verboseOption, logOption, logDirectoryOption]
  firstWordTakesRest := true

/-- The options of running. The arguments of `run` in `intcodekit.build_parser`. -/
def runGrammar : Grammar where
  options := [helpOption, inputOption, pokeOption, peekOption, traceOption]
  firstWordTakesRest := false

/-- The options of listing. The arguments of `disasm` in `intcodekit.build_parser`. -/
def listGrammar : Grammar where
  options := [helpOption, outputOption]
  firstWordTakesRest := false

/-- The options of searching. The arguments of `amplify` in `intcodekit.build_parser`. -/
def amplifyGrammar : Grammar where
  options := [helpOption, profileOption, phasesOption, signalOption]
  firstWordTakesRest := false

/-- The names of the commands. -/
def commandNames : List String := ["run", "disasm", "amplify"]

/-! ## Reading steps -/

/-- What the steps of a command come to, while they are read: the options so far, the word found, and
the arguments that nothing is known about. -/
structure Reading (ρ : Type) where
  options : ρ
  word : Option String
  extras : List String

/-- Reads the steps of a command, each option by its own rule, and ends at the first request for help
or the first complaint. -/
def readSteps {ρ : Type} (command : String) (flag : OptionSpec → ρ → ρ)
    (value : OptionSpec → Option String → ρ → Except Complaint ρ) :
    Reading ρ → List Step → Except Asked (Reading ρ)
  | r, [] => .ok r
  | r, .flag o :: steps =>
    if o = helpOption then .error (.help (some command))
    else readSteps command flag value { r with options := flag o r.options } steps
  | r, .value o text :: steps =>
    match value o text r.options with
    | .error c => .error (.wrong (some command) c)
    | .ok options => readSteps command flag value { r with options := options } steps
  | r, .word text :: steps => readSteps command flag value { r with word := some text } steps
  | r, .rest first others :: steps =>
    readSteps command flag value { r with extras := r.extras ++ first :: others } steps
  | r, .extra text :: steps =>
    readSteps command flag value { r with extras := r.extras ++ [text] } steps
  | _, .wrong c :: _ => .error (.wrong (some command) c)

/-- The options of a command and its one word, which is required, with the arguments unknown to it. -/
def readCommand {ρ : Type} (command : String) (g : Grammar) (flag : OptionSpec → ρ → ρ)
    (value : OptionSpec → Option String → ρ → Except Complaint ρ) (initial : ρ) (args : List String) :
    Except Asked (ρ × String × List String) :=
  match readSteps command flag value ⟨initial, none, []⟩ (g.steps args) with
  | .error a => .error a
  | .ok r =>
    match r.word with
    | none => .error (.wrong (some command) (.missing "program"))
    | some word => .ok (r.options, word, r.extras)

/-- An integer given as the value of an option; one that is not given is void. -/
def integerOf (o : OptionSpec) : Option String → Except Complaint Datum
  | none => .ok .void
  | some text =>
    match readInteger text with
    | .ok n => .ok (.number n)
    | .error _ => .error (.integerExpected o text)

/-- One more value for running. -/
def RunRequest.add (o : OptionSpec) (text : Option String) (r : RunRequest) :
    Except Complaint RunRequest :=
  if o = inputOption then (integerOf o text).map fun d ↦ { r with inputs := r.inputs ++ [d] }
  else if o = pokeOption then .ok { r with pokes := r.pokes ++ [text] }
  else (integerOf o text).map fun d ↦ { r with peeks := r.peeks ++ [d] }

/-- The profile of a name, if one is given. -/
def profileOf : Option String → Except Complaint (Option Profile)
  | none => .ok none
  | some name =>
    match Profile.named? name with
    | some p => .ok (some p)
    | none => .error (.unknownChoice profileOption.title name (Profile.all.map Profile.name))

/-- One more value for searching. -/
def AmplifyRequest.add (o : OptionSpec) (text : Option String) (r : AmplifyRequest) :
    Except Complaint AmplifyRequest :=
  if o = profileOption then (profileOf text).map fun p ↦ { r with profile := p }
  else if o = phasesOption then .ok { r with phases := text }
  else (integerOf o text).map fun d ↦ { r with signal := d }

/-- The command of a name, with the arguments unknown to it. -/
def command (name : String) (args : List String) : Except Asked (Command × List String) :=
  if name = "run" then
    (readCommand name runGrammar (fun _ r ↦ { r with trace := true }) RunRequest.add
      ⟨"", [], [], [], false⟩ args).map
        fun (r, word, extras) ↦ (.run { r with program := word }, extras)
  else if name = "disasm" then
    (readCommand name listGrammar (fun _ r ↦ r)
      (fun _ text r ↦ .ok { r with output := text }) (⟨"", none⟩ : ListRequest) args).map
        fun (r, word, extras) ↦ (.list { r with program := word }, extras)
  else if name = "amplify" then
    (readCommand name amplifyGrammar (fun _ r ↦ r) AmplifyRequest.add
      ⟨"", some Profile.usual, none, .number Profile.usualSignal⟩ args).map
        fun (r, word, extras) ↦ (.amplify { r with program := word }, extras)
  else .error (.wrong none (.unknownChoice "command" name commandNames))

/-- The options that concern all commands, while they are read. -/
structure Globals where
  verbosity : Nat
  log : Bool
  logDirectory : Option String
  extras : List String
  deriving DecidableEq, Repr

/-- The directory of the log file, if one is asked for. An empty name asks for none. From
`intcodekit.main`. -/
def Globals.directory (g : Globals) : Option String :=
  match g.logDirectory with
  | some d => if d = "" then (if g.log then some usualLogDirectory else none) else some d
  | none => if g.log then some usualLogDirectory else none

/-- Reads the steps before the command, and the command at their end. Without a command help is asked
for, and unknown arguments are complained about only if nothing else is. -/
def askedBy : Globals → List Step → Asked
  | g, [] => if g.extras = [] then .help none else .wrong none (.unrecognized g.extras)
  | g, .flag o :: steps =>
    if o = helpOption then .help none
    else if o = versionOption then .version
    else if o = verboseOption then askedBy { g with verbosity := g.verbosity + 1 } steps
    else askedBy { g with log := true } steps
  | g, .value _ text :: steps => askedBy { g with logDirectory := text } steps
  | g, .word text :: steps => askedBy { g with extras := g.extras ++ [text] } steps
  | g, .extra text :: steps => askedBy { g with extras := g.extras ++ [text] } steps
  | g, .rest first others :: _ =>
    match command first others with
    | .error a => a
    | .ok (c, extras) =>
      match g.extras ++ extras with
      | [] => .invocation ⟨g.verbosity, g.directory, c⟩
      | unknown => .wrong none (.unrecognized unknown)
  | _, .wrong c :: _ => .wrong none c

/-- What arguments ask for. Models `intcodekit.main`, up to what the parser makes of the arguments. -/
def asked (args : List String) : Asked := askedBy ⟨0, false, none, []⟩ (mainGrammar.steps args)

end DecimalMachine.CommandLine
