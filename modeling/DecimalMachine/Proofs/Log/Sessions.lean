import DecimalMachine.Log.Session
import DecimalMachine.Proofs.Text.Paths

/-!
# What the log files hold

Whatever is done to a logger falls into sessions: one begins when a logger without handlers is set
up, and ends when the handlers are taken away. The file of a directory holds the records of the
sessions with that directory, one session after the other: the records it begins with, and what is
logged before it ends, as far as the level of the session lets it through. Different paths of one normal
form are one directory.
-/

namespace DecimalMachine.Log

open Text

/-- How a logger was set up, and what was logged before its handlers were taken away. -/
structure Session where
  setup : Setup
  logged : List (Level × String)

/-- What is logged before the handlers are taken away. -/
def loggedUntilClosed : List Act → List (Level × String)
  | [] => []
  | .closeSession :: _ => []
  | .log level message :: acts => (level, message) :: loggedUntilClosed acts
  | .openSession _ :: acts => loggedUntilClosed acts

/-- The sessions that begin in a list of acts, if the logger has handlers or has none before it. A
setup begins a session only if there are no handlers. -/
def sessionsFrom : Bool → List Act → List Session
  | _, [] => []
  | false, .openSession s :: acts => ⟨s, loggedUntilClosed acts⟩ :: sessionsFrom true acts
  | true, .openSession _ :: acts => sessionsFrom true acts
  | _, .closeSession :: acts => sessionsFrom false acts
  | attached, .log _ _ :: acts => sessionsFrom attached acts

/-- The sessions of a logger that nothing was done to before. -/
def sessions (acts : List Act) : List Session := sessionsFrom false acts

/-- The level from which on records are made: the one given, or the one in force where none is. -/
def Setup.effectiveLevel (s : Setup) : Level := if s.level = 0 then rootLevel else s.level

/-- Of what is logged in a session, the records that are let through to its file. -/
def Setup.kept (s : Setup) (name : String) (logged : List (Level × String)) : List Record :=
  (logged.filter fun p ↦ decide (Level.debug ≤ p.1 ∧ s.effectiveLevel ≤ p.1)).map fun p ↦
    ⟨p.1, name, p.2⟩

/-- The records that a session begins with, all of them details. -/
def Setup.openingRecords (s : Setup) (name : String) : List Record :=
  if s.effectiveLevel ≤ Level.debug then
    (s.messages name).map fun message ↦ ⟨Level.debug, name, message⟩
  else []

/-- The records of a session. -/
def Session.records (name : String) (s : Session) : List Record :=
  s.setup.openingRecords name ++ s.setup.kept name s.logged

/-- The records of the sessions that write to a directory. -/
def recordsOf (name directory : String) (sessions : List Session) : List Record :=
  sessions.flatMap fun s ↦ if s.setup.place = some directory then s.records name else []

/-- A handler that writes to a console. -/
def Handler.IsConsole (h : Handler) : Prop := h.sink = .rich ∨ h.sink = .stream

/-- All files are in directories that go by the normal forms of their paths. -/
def Placed (files : List (String × Array Record)) : Prop := ∀ p ∈ files, normalPath p.1 = p.1

/-- The records in the file of a directory. -/
def recordsIn (directory : String) (files : List (String × Array Record)) : List Record :=
  ((files.lookup directory).getD #[]).toList

namespace Logger

/-- The logger after a list of acts, if nothing was done to it before. -/
def ofActs (name : String) (acts : List Act) : Logger := acts.foldl act (fresh name)

/-- The logger has been set up, and its handlers have not been taken away since. -/
structure Attached (l : Logger) (s : Setup) : Prop where
  handlers : l.handlers = handlersOf s
  level : l.level = s.level

/-! ### Files -/

private theorem recordsIn_cons (d place : String) (held : Array Record)
    (rest : List (String × Array Record)) :
    recordsIn d ((place, held) :: rest) = if d = place then held.toList else recordsIn d rest := by
  unfold recordsIn
  by_cases here : d = place
  · rw [if_pos here, here, List.lookup_cons_self]
    rfl
  · have apart : (d == place) = false := beq_false_of_ne here
    rw [if_neg here, List.lookup_cons, apart]

private theorem recordsIn_write (directory d : String) (records : Array Record)
    (files : List (String × Array Record)) :
    recordsIn d (write directory records files) =
      recordsIn d files ++ if d = directory then records.toList else [] := by
  induction files with
  | nil =>
    rw [write, recordsIn_cons]
    rfl
  | cons file rest ih =>
    obtain ⟨place, held⟩ := file
    rw [write]
    by_cases found : place = directory
    · rw [if_pos found, recordsIn_cons, recordsIn_cons, found]
      split
      · rw [Array.toList_append]
      · rw [List.append_nil]
    · rw [if_neg found, recordsIn_cons, recordsIn_cons, ih]
      split
      · next here =>
        rw [if_neg fun same ↦ found (here.symm.trans same), List.append_nil]
      · rfl

private theorem handle_console (s : Setup) (r : Record) (files : List (String × Array Record)) :
    handle r files ⟨if s.richConsole then .rich else .stream, s.console⟩ = files := by
  cases s.richConsole <;> rfl

private theorem recordsIn_handlersOf (s : Setup) (r : Record) (d : String)
    (files : List (String × Array Record)) :
    recordsIn d ((handlersOf s).foldl (handle r) files) =
      recordsIn d files ++
        if s.place = some d ∧ Level.debug ≤ r.level then [r] else [] := by
  rw [handlersOf, List.foldl_append, List.foldl_cons, List.foldl_nil, handle_console]
  cases s.place with
  | none => simp
  | some directory =>
    simp only [Option.map_some, Option.toList_some, List.foldl_cons, List.foldl_nil, handle,
      Option.some.injEq]
    by_cases enough : Level.debug ≤ r.level
    · simp only [enough, if_true, and_true, recordsIn_write, eq_comm]
    · simp only [enough, if_false, and_false, List.append_nil]

/-! ### Logging -/

private theorem record_eq (l : Logger) (r : Record) :
    ∃ files, l.record r = { l with files := files } := by
  unfold record
  split
  · exact ⟨_, rfl⟩
  · exact ⟨_, rfl⟩

/-- Logging keeps the name. -/
@[simp] theorem name_record (l : Logger) (r : Record) : (l.record r).name = l.name := by
  obtain ⟨files, kept⟩ := l.record_eq r
  rw [kept]

variable {l : Logger} {s : Setup}

private theorem Attached.record (attached : l.Attached s) (r : Record) :
    (l.record r).Attached s := by
  obtain ⟨files, kept⟩ := l.record_eq r
  rw [kept]
  exact ⟨attached.handlers, attached.level⟩

private theorem Attached.recordsIn_record (attached : l.Attached s) (level : Level)
    (message d : String) :
    recordsIn d (l.record ⟨level, l.name, message⟩).files =
      recordsIn d l.files ++
        if s.place = some d then s.kept l.name [(level, message)] else [] := by
  have effective : l.effectiveLevel = s.effectiveLevel := by
    rw [effectiveLevel, attached.level, Setup.effectiveLevel]
  unfold Logger.record
  rw [effective, attached.handlers]
  by_cases enabled : s.effectiveLevel ≤ level
  · by_cases detail : Level.debug ≤ level
    · have positive : 0 < level := Int.lt_of_lt_of_le (by decide) detail
      rw [if_pos ⟨positive, enabled⟩, recordsIn_handlersOf]
      simp [Setup.kept, detail, enabled]
    · -- Below the level of details the console alone may have it.
      have nothing : s.kept l.name [(level, message)] = [] := by simp [Setup.kept, detail]
      rw [nothing, ite_self, List.append_nil]
      split
      · rw [recordsIn_handlersOf, if_neg fun both ↦ detail both.2, List.append_nil]
      · rfl
  · rw [if_neg fun both ↦ enabled both.2]
    simp [Setup.kept, enabled]

private theorem Attached.foldl_record (attached : l.Attached s) (records : List Record) :
    (records.foldl Logger.record l).Attached s ∧ (records.foldl Logger.record l).name = l.name := by
  induction records generalizing l with
  | nil => exact ⟨attached, rfl⟩
  | cons r records ih =>
    obtain ⟨later, name⟩ := ih (attached.record r)
    exact ⟨later, name.trans (name_record l r)⟩

private theorem kept_nil (s : Setup) (name : String) : s.kept name [] = [] := rfl

private theorem kept_cons (s : Setup) (name message : String) (level : Level)
    (logged : List (Level × String)) :
    s.kept name ((level, message) :: logged) =
      s.kept name [(level, message)] ++ s.kept name logged := by
  simp only [Setup.kept, ← List.map_append, ← List.filter_append, List.singleton_append]

/-! ### Setting up -/

private theorem kept_debug (s : Setup) (name : String) (messages : List String) :
    s.kept name (messages.map fun message ↦ (Level.debug, message)) =
      if s.effectiveLevel ≤ Level.debug then
        messages.map fun message ↦ ⟨Level.debug, name, message⟩
      else [] := by
  rw [Setup.kept, List.filter_map, List.map_map]
  by_cases enabled : s.effectiveLevel ≤ Level.debug
  · rw [if_pos enabled, List.filter_eq_self.mpr (by simp [enabled])]
    rfl
  · rw [if_neg enabled, List.filter_eq_nil_iff.mpr (by simp [enabled]), List.map_nil]

private theorem Attached.recordsIn_foldl (attached : l.Attached s) (d : String)
    (logged : List (Level × String)) :
    recordsIn d ((logged.map fun p ↦ (⟨p.1, l.name, p.2⟩ : Record)).foldl Logger.record l).files =
      recordsIn d l.files ++ if s.place = some d then s.kept l.name logged else [] := by
  induction logged generalizing l with
  | nil =>
    rw [kept_nil, ite_self, List.append_nil]
    rfl
  | cons p logged ih =>
    obtain ⟨level, message⟩ := p
    have later := ih (attached.record ⟨level, l.name, message⟩)
    rw [name_record] at later
    rw [List.map_cons, List.foldl_cons, later, attached.recordsIn_record, List.append_assoc]
    congr 1
    split
    · rw [kept_cons s l.name message level logged]
    · rfl

private theorem Attached.recordsIn_opening (attached : l.Attached s) (d : String) :
    recordsIn d ((l.opening s).foldl Logger.record l).files =
      recordsIn d l.files ++ if s.place = some d then s.openingRecords l.name else [] := by
  have begun := attached.recordsIn_foldl d
    ((s.messages l.name).map fun message ↦ (Level.debug, message))
  rw [kept_debug, List.map_map] at begun
  exact begun

private theorem attached_openSession (h : l.handlers = []) (s : Setup) :
    (l.openSession s).Attached s ∧ (l.openSession s).name = l.name ∧
      ∀ d, recordsIn d (l.openSession s).files =
        recordsIn d l.files ++
          if s.place = some d then s.openingRecords l.name else [] := by
  have bare : ¬l.handlers ≠ [] := fun some_handlers ↦ some_handlers h
  rw [openSession, if_neg bare]
  generalize begun : s.place.elim l.files (fun d ↦ write d #[] l.files) = files
  have created (d : String) : recordsIn d files = recordsIn d l.files := by
    rw [← begun]
    cases s.place with
    | none => rfl
    | some directory =>
      rw [Option.elim_some, recordsIn_write]
      exact (congrArg _ (ite_self _)).trans (List.append_nil _)
  have attached : ({ l with level := s.level, handlers := handlersOf s, files := files } :
      Logger).Attached s := ⟨rfl, rfl⟩
  obtain ⟨kept, name⟩ := attached.foldl_record (l.opening s)
  refine ⟨kept, name, fun d ↦ ?_⟩
  rw [← created]
  exact attached.recordsIn_opening d

/-! ### Any acts -/

private theorem name_act (l : Logger) (a : Act) : (l.act a).name = l.name := by
  cases a with
  | closeSession => rfl
  | log level message => exact name_record ..
  | openSession s =>
    by_cases h : l.handlers = []
    · exact (attached_openSession h s).2.1
    · exact congrArg Logger.name (openSession_of_handlers s h)

/-- Between two acts a logger has no handlers, or those of a setup. -/
theorem detached_or_attached (acts : List Act)
    (h : l.handlers = [] ∨ ∃ s, l.Attached s) :
    (acts.foldl act l).handlers = [] ∨ ∃ s, (acts.foldl act l).Attached s := by
  induction acts generalizing l with
  | nil => exact h
  | cons a acts ih =>
    apply ih
    cases a with
    | closeSession => exact .inl rfl
    | log level message =>
      rcases h with none | ⟨s, attached⟩
      · exact .inl ((congrArg handlers (record_of_no_handlers _ none)).trans none)
      · exact .inr ⟨s, attached.record _⟩
    | openSession s =>
      by_cases none : l.handlers = []
      · exact .inr ⟨s, (attached_openSession none s).1⟩
      · show (l.openSession s).handlers = [] ∨ ∃ s', (l.openSession s).Attached s'
        rw [openSession_of_handlers s none]
        exact h

private theorem recordsOf_cons (name d : String) (session : Session) (rest : List Session) :
    recordsOf name d (session :: rest) =
      (if session.setup.place = some d then session.records name else []) ++
        recordsOf name d rest := rfl

/-- The file of a directory grows by what is left of the present session, if there is one and it
writes there, and by the sessions that begin later. -/
theorem recordsIn_foldl_act (d : String) (acts : List Act) (l : Logger) :
    (l.handlers = [] → recordsIn d (acts.foldl act l).files =
      recordsIn d l.files ++ recordsOf l.name d (sessionsFrom false acts)) ∧
    ∀ s, l.Attached s → recordsIn d (acts.foldl act l).files =
      recordsIn d l.files ++
        ((if s.place = some d then s.kept l.name (loggedUntilClosed acts) else []) ++
          recordsOf l.name d (sessionsFrom true acts)) := by
  induction acts generalizing l with
  | nil => simp [sessionsFrom, recordsOf, loggedUntilClosed, Setup.kept]
  | cons a acts ih =>
    rw [List.foldl_cons]
    have later := ih (l.act a)
    rw [name_act] at later
    refine ⟨fun none ↦ ?_, fun s attached ↦ ?_⟩
    · cases a with
      | closeSession => exact later.1 rfl
      | log level message =>
        have same : l.act (.log level message) = l := record_of_no_handlers _ none
        rw [same] at later ⊢
        exact later.1 none
      | openSession s =>
        obtain ⟨attached, -, begun⟩ := attached_openSession none s
        rw [later.2 s attached]
        show recordsIn d (l.openSession s).files ++ _ = _
        rw [begun, sessionsFrom, recordsOf_cons, List.append_assoc]
        congr 1
        split
        · rw [Session.records, List.append_assoc]
        · rfl
    · cases a with
      | closeSession =>
        rw [later.1 rfl, loggedUntilClosed, sessionsFrom, kept_nil, ite_self]
        rfl
      | log level message =>
        rw [later.2 s (attached.record _)]
        show recordsIn d (l.record _).files ++ _ = _
        rw [attached.recordsIn_record, loggedUntilClosed, sessionsFrom,
          kept_cons s l.name message level (loggedUntilClosed acts)]
        split
        · simp only [List.append_assoc]
        · simp only [List.append_nil]
      | openSession s' =>
        have some_handlers : l.handlers ≠ [] := by
          rw [attached.handlers, handlersOf]
          simp
        have same : l.act (.openSession s') = l := openSession_of_handlers s' some_handlers
        rw [same] at later ⊢
        exact later.2 s attached

/-! ### Directories -/

private theorem normalPath_of_place {d : String} (place : s.place = some d) : normalPath d = d := by
  obtain ⟨path, -, rfl⟩ := Option.map_eq_some_iff.mp place
  exact normalPath_normalPath path

private theorem placed_write {d : String} (normal : normalPath d = d) (records : Array Record)
    {files : List (String × Array Record)} (placed : Placed files) :
    Placed (write d records files) := by
  induction files with
  | nil => exact List.forall_mem_singleton.mpr normal
  | cons file rest ih =>
    obtain ⟨first, others⟩ := List.forall_mem_cons.mp placed
    rw [write]
    split
    · exact List.forall_mem_cons.mpr ⟨first, others⟩
    · exact List.forall_mem_cons.mpr ⟨first, ih others⟩

private theorem placed_handle {h : Handler} (normal : ∀ d, h.sink = .file d → normalPath d = d)
    (r : Record) {files : List (String × Array Record)} (placed : Placed files) :
    Placed (handle r files h) := by
  unfold handle
  split
  · next d sink =>
    split
    · exact placed_write (normal d sink) _ placed
    · exact placed
  · exact placed

private theorem placed_handlersOf (s : Setup) (r : Record) {files : List (String × Array Record)}
    (placed : Placed files) : Placed ((handlersOf s).foldl (handle r) files) := by
  rw [handlersOf, List.foldl_append, List.foldl_cons, List.foldl_nil, handle_console]
  cases place : s.place with
  | none => exact placed
  | some d =>
    show Placed (handle r files ⟨.file d, Level.debug⟩)
    apply placed_handle _ r placed
    rintro _ ⟨⟩
    exact normalPath_of_place place

private theorem Attached.placed_record (attached : l.Attached s) (r : Record)
    (placed : Placed l.files) :
    Placed (l.record r).files := by
  unfold Logger.record
  split
  · rw [attached.handlers]
    exact placed_handlersOf s r placed
  · exact placed

private theorem Attached.placed_foldl (attached : l.Attached s) (records : List Record)
    (placed : Placed l.files) : Placed (records.foldl Logger.record l).files := by
  induction records generalizing l with
  | nil => exact placed
  | cons r records ih => exact ih (attached.record r) (attached.placed_record r placed)

private theorem placed_openSession (h : l.handlers = []) (s : Setup) (placed : Placed l.files) :
    Placed (l.openSession s).files := by
  have bare : ¬l.handlers ≠ [] := fun some_handlers ↦ some_handlers h
  rw [openSession, if_neg bare]
  apply Attached.placed_foldl (s := s)
  · exact ⟨rfl, rfl⟩
  · show Placed (s.place.elim l.files fun d ↦ write d #[] l.files)
    cases place : s.place with
    | none => exact placed
    | some d => exact placed_write (normalPath_of_place place) _ placed

/-- Whatever is done to a logger, its files stay in directories that go by normal forms. -/
theorem placed_foldl_act (acts : List Act) (h : l.handlers = [] ∨ ∃ s, l.Attached s)
    (placed : Placed l.files) : Placed (acts.foldl act l).files := by
  induction acts generalizing l with
  | nil => exact placed
  | cons a acts ih =>
    apply ih (detached_or_attached [a] h)
    cases a with
    | closeSession => exact placed
    | log level message =>
      rcases h with none | ⟨s, attached⟩
      · exact (congrArg (Placed ·.files) (record_of_no_handlers _ none)).mpr placed
      · exact attached.placed_record _ placed
    | openSession s =>
      by_cases none : l.handlers = []
      · exact placed_openSession none s placed
      · exact (congrArg (Placed ·.files) (openSession_of_handlers s none)).mpr placed

/-- The handlers of a setup are a console, and before it a file for all details if there is a
directory. -/
theorem handlersOf_cases (s : Setup) :
    (∃ c, c.IsConsole ∧ handlersOf s = [c]) ∨
      ∃ d c, normalPath d = d ∧ c.IsConsole ∧ handlersOf s = [⟨.file d, Level.debug⟩, c] := by
  have console : (⟨if s.richConsole then .rich else .stream, s.console⟩ : Handler).IsConsole := by
    cases s.richConsole with
    | true => exact .inl rfl
    | false => exact .inr rfl
  cases place : s.place with
  | none => exact .inl ⟨_, console, by simp [handlersOf, place]⟩
  | some d => exact .inr ⟨d, _, normalPath_of_place place, console, by simp [handlersOf, place]⟩

/-- Whatever was done to a logger, its handlers are none, a console, or a file for all details and a
console; setting it up while it has handlers changes nothing, and resetting it takes away the
handlers alone. Directories go by the normal forms of their paths, and the file of a directory holds the
records of the sessions with that directory. -/
theorem files_hold_sessions (name : String) (acts : List Act) :
    ((ofActs name acts).handlers = [] ∨
        (∃ c, c.IsConsole ∧ (ofActs name acts).handlers = [c]) ∨
        ∃ d c, normalPath d = d ∧ c.IsConsole ∧
          (ofActs name acts).handlers = [⟨.file d, Level.debug⟩, c]) ∧
      ((ofActs name acts).handlers ≠ [] →
        ∀ s, (ofActs name acts).act (.openSession s) = ofActs name acts) ∧
      (ofActs name acts).act .closeSession = { ofActs name acts with handlers := [] } ∧
      Placed (ofActs name acts).files ∧
      ∀ d, recordsIn d (ofActs name acts).files = recordsOf name d (sessions acts) := by
  have begun : (fresh name).handlers = [] ∨ ∃ s, (fresh name).Attached s := .inl rfl
  refine ⟨?_, ?_, rfl, ?_, ?_⟩
  · rcases detached_or_attached acts begun with none | ⟨s, attached⟩
    · exact .inl none
    · rw [ofActs, attached.handlers]
      exact .inr (handlersOf_cases s)
  · intro some_handlers s
    exact openSession_of_handlers s some_handlers
  · exact placed_foldl_act acts begun (List.forall_mem_nil _)
  · intro d
    exact (recordsIn_foldl_act d acts (fresh name)).1 rfl

/-- A session without a level of its own lets warnings through and does not tell how it begins; what
is logged behind its end is in no file, and the next session with the same directory goes on in the
file, even if the directory is given by another path. -/
theorem files_hold_sessions_reopened :
    recordsIn "logs" (ofActs "m"
        [.openSession ⟨0, 30, some "logs", "_1", true⟩, .log 20 "a", .log 30 "b",
          .openSession ⟨10, 30, some "other", "_2", true⟩, .log 10 "c", .closeSession, .log 40 "d",
          .openSession ⟨5, 20, some "./logs/", "_3", false⟩, .log 7 "e", .log 10 "f"]).files =
      [⟨30, "m", "b"⟩, ⟨10, "m", "Logger initialized: m"⟩, ⟨10, "m", "Log file: logs/m_3.log"⟩,
        ⟨10, "m", "Console level: INFO"⟩, ⟨10, "m", "f"⟩] := by
  obtain ⟨-, -, -, -, holds⟩ := files_hold_sessions "m"
    [.openSession ⟨0, 30, some "logs", "_1", true⟩, .log 20 "a", .log 30 "b",
      .openSession ⟨10, 30, some "other", "_2", true⟩, .log 10 "c", .closeSession, .log 40 "d",
      .openSession ⟨5, 20, some "./logs/", "_3", false⟩, .log 7 "e", .log 10 "f"]
  rw [holds]
  decide

end Logger
end DecimalMachine.Log
