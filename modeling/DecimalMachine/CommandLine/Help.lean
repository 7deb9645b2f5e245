import DecimalMachine.CommandLine.Invocation

/-!
# Help

How the program and its commands are called.
-/

namespace DecimalMachine.CommandLine

/-- An option in brackets, with a name for its value if it takes one. -/
def OptionSpec.usage (o : OptionSpec) : String :=
  "[" ++ o.names.headD "" ++ (if o.takesValue then " VALUE" else "") ++ "]"

/-- The options of a grammar. -/
def Grammar.usage (g : Grammar) : String := " ".intercalate (g.options.map OptionSpec.usage)

/-- The options of a command. -/
def grammarOf (command : String) : Grammar :=
  if command = "run" then runGrammar
  else if command = "disasm" then listGrammar
  else amplifyGrammar

/-- One line on how a command is called. -/
def commandUsage (command : String) : String :=
  programName ++ " " ++ command ++ " " ++ (grammarOf command).usage ++ " program"

/-- Help on a command, or on the program and all of them. -/
def help (command : Option String) : List String :=
  match command with
  | some c => ["usage: " ++ commandUsage c]
  | none =>
    ["usage: " ++ programName ++ " " ++ mainGrammar.usage ++ " command ...", "", "commands:"] ++
      commandNames.map fun c ↦ "  " ++ commandUsage c

end DecimalMachine.CommandLine
