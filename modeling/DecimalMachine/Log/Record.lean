/-!
# Log records

A record has a level, the name of its source and a message. Levels are numbers; five of them, and the
level of no restriction, have names.
-/

namespace DecimalMachine.Log

/-- The importance of a record, the more the higher. -/
abbrev Level : Type := Int

namespace Level

/-- The level of details. -/
def debug : Level := 10

/-- The level of noteworthy events. -/
def info : Level := 20

/-- The level of warnings, below which nothing is shown unless asked for. -/
def warning : Level := 30

/-- The name of a level. -/
def name (l : Level) : String :=
  if l = 0 then "NOTSET"
  else if l = 10 then "DEBUG"
  else if l = 20 then "INFO"
  else if l = 30 then "WARNING"
  else if l = 40 then "ERROR"
  else if l = 50 then "CRITICAL"
  else "Level " ++ toString l

end Level

/-- Something worth writing down. -/
structure Record where
  level : Level
  source : String
  message : String
  deriving DecidableEq, Repr

end DecimalMachine.Log
