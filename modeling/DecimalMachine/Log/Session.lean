import DecimalMachine.Log.Record
import DecimalMachine.Text.Path

/-!
# Logging sessions

A logger has a level and handlers. Setting it up attaches a file, if a directory is given for one,
and a console, and begins with records of its own; it changes nothing while handlers are attached.
Resetting it takes the handlers away and leaves the level. A directory may be given by any path; from
then on it goes by the normal form of that path.
-/

namespace DecimalMachine.Log

open Text

/-- Where records go: to the file of a directory, or to a console with or without colours. -/
inductive Sink where
  | file (directory : String)
  | rich
  | stream
  deriving DecidableEq, Repr

/-- A sink and the level from which on it takes records. -/
structure Handler where
  sink : Sink
  level : Level
  deriving DecidableEq, Repr

/-- How a logger is set up, with any path for the directory. The stamp stands in the name of the file,
so that setups at different times can have different files in one directory. The parameters of
`intcode.log.setup_logging`; specification 10. -/
structure Setup where
  level : Level
  console : Level
  directory : Option String
  stamp : String
  richConsole : Bool
  deriving DecidableEq, Repr

/-- A logger with the lines written so far in each directory, in the order of their first use. -/
structure Logger where
  name : String
  level : Level
  handlers : List Handler
  files : List (String × Array Record)
  deriving DecidableEq, Repr

/-- Something done to a logger. -/
inductive Act where
  | openSession (s : Setup)
  | closeSession
  | log (level : Level) (message : String)
  deriving DecidableEq, Repr

/-- The line of a record, with its level filled up to the longest of the usual names. Models
`intcode.config.FILE_LOG_FORMAT`, without the time and the place of the call. -/
def Record.line (r : Record) : String :=
  let name := r.level.name
  name ++ String.ofList (List.replicate (7 - name.length) ' ') ++ " | " ++ r.source ++ " | " ++
    r.message

namespace Setup

/-- The directory of a setup, if there is one, by the normal form of its path. -/
def place (s : Setup) : Option String := s.directory.map normalPath

/-- The path of the file that a logger of this name gets, if there is a directory for it. -/
def path? (s : Setup) (name : String) : Option String :=
  s.directory.map fun d ↦ pathIn d (name ++ s.stamp ++ ".log")

/-- What a setup tells about itself. -/
def messages (s : Setup) (name : String) : List String :=
  ["Logger initialized: " ++ name] ++ (s.path? name).toList.map ("Log file: " ++ ·) ++
    ["Console level: " ++ s.console.name]

end Setup

/-- The level in force where none is set. -/
def rootLevel : Level := Level.warning

namespace Logger

/-- A logger that nothing was done to. -/
def fresh (name : String) : Logger := ⟨name, 0, [], []⟩

/-- The level from which on records are made at all. -/
def effectiveLevel (l : Logger) : Level := if l.level = 0 then rootLevel else l.level

/-- Records added to the file of a directory, which is created if need be. -/
def write (directory : String) (records : Array Record) :
    List (String × Array Record) → List (String × Array Record)
  | [] => [(directory, records)]
  | (d, rs) :: rest =>
    if d = directory then (d, rs ++ records) :: rest else (d, rs) :: write directory records rest

/-- A record handed to one handler. Consoles keep nothing. -/
def handle (r : Record) (files : List (String × Array Record)) (h : Handler) :
    List (String × Array Record) :=
  match h.sink with
  | .file directory => if h.level ≤ r.level then write directory #[r] files else files
  | _ => files

/-- A record handed to all handlers, if its level is enabled; levels below one never are. -/
def record (l : Logger) (r : Record) : Logger :=
  if 0 < r.level ∧ l.effectiveLevel ≤ r.level then
    { l with files := l.handlers.foldl (handle r) l.files }
  else l

/-- The handlers that a setup attaches. From `intcode.log.setup_logging`. -/
def handlersOf (s : Setup) : List Handler :=
  (s.place.map fun d ↦ Handler.mk (.file d) Level.debug).toList ++
    [⟨if s.richConsole then .rich else .stream, s.console⟩]

/-- The records with which a setup begins. -/
def opening (l : Logger) (s : Setup) : List Record :=
  (s.messages l.name).map fun message ↦ ⟨Level.debug, l.name, message⟩

/-- Sets a logger up, unless it is. Models `intcode.log.setup_logging`; specification 10. -/
def openSession (l : Logger) (s : Setup) : Logger :=
  if l.handlers ≠ [] then l
  else
    let files := s.place.elim l.files fun d ↦ write d #[] l.files
    let attached : Logger := { l with level := s.level, handlers := handlersOf s, files := files }
    (l.opening s).foldl record attached

/-- Takes all handlers away. Models `intcode.log.reset_logging`. -/
def closeSession (l : Logger) : Logger := { l with handlers := [] }

/-- Does one thing to a logger. -/
def act (l : Logger) : Act → Logger
  | .openSession s => l.openSession s
  | .closeSession => l.closeSession
  | .log level message => l.record ⟨level, l.name, message⟩

/-- Without handlers nothing is written. -/
theorem record_of_no_handlers {l : Logger} (r : Record) (h : l.handlers = []) : l.record r = l := by
  have kept : l.handlers.foldl (handle r) l.files = l.files := by rw [h, List.foldl_nil]
  unfold record
  split
  · rw [kept]
  · rfl

/-- A logger with handlers is set up already. -/
theorem openSession_of_handlers {l : Logger} (s : Setup) (h : l.handlers ≠ []) : l.openSession s = l := by
  simp [openSession, h]

end Logger
end DecimalMachine.Log
