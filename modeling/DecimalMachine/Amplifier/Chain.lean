import DecimalMachine.Machine.Run

/-!
# Chains of amplifiers

Machines that run the same program pass a signal along. Each is given its phase first and runs until it
asks for more. Then the signal goes round: it is fed to one machine, whose single output is the
signal for the next. A chain with feedback goes round until its last machine has halted; one without
goes round once.
-/

namespace DecimalMachine

open Text

/-- How a chain fails to pass its signal on. Models `intcode.pipeline.PipelineError`;
specification 7. -/
inductive Breach where
  | noPhases
  /-- An amplifier answered one input with more or fewer outputs than one. -/
  | outputCount (produced : Nat) (amplifier : Nat)
  /-- The last amplifier has put out nothing, or was never fed. -/
  | noSignal (amplifier : Nat)
  /-- A breach told in words. -/
  | told (words : String) (amplifier : Option Int)
  deriving DecidableEq, Repr

namespace Breach

/-- The amplifier at fault, where one is known. -/
def amplifier : Breach → Option Int
  | noPhases => none
  | outputCount _ i => some i
  | noSignal i => some i
  | told _ i => i

/-- What went wrong. -/
def words : Breach → String
  | noPhases => "at least one phase setting is required"
  | outputCount produced _ => "produced " ++ toString produced ++ " outputs for one input"
  | noSignal _ => "halted without producing a signal"
  | told words _ => words

/-- How a breach is told. -/
def message (b : Breach) : String :=
  match b.amplifier with
  | some i => "Amplifier " ++ decimal i ++ ": " ++ b.words
  | none => b.words

end Breach

/-- Machines that pass a signal along, at least one of them. Models
`intcode.pipeline.AmplifierPipeline`; specification 6. -/
structure Chain where
  phases : List Int
  feedback : Bool
  machines : Array Machine
  /-- The signal fed last or to be fed next. -/
  signal : Option Int
  /-- The number of inputs answered by one output, over all runs. -/
  feeds : Nat
  nonempty : 0 < machines.size

namespace Chain

/-- Why a chain gives no signal. -/
inductive Failure where
  | machine (fault : Fault)
  | breach (breach : Breach)
  deriving DecidableEq, Repr

/-- How a failure is told. -/
def Failure.message : Failure → String
  | machine f => f.message
  | breach b => b.message

/-- Something reported while chains work. -/
inductive Event where
  | amplifier (index : Nat) (event : DecimalMachine.Event)
  | settled (phases : List Int) (signal : Int) (feeds : Nat)
  | found (signal : Int) (phases : List Int)
  deriving DecidableEq, Repr

/-- A list of phases in parentheses; one phase alone keeps its comma. -/
def phasesText : List Int → String
  | [p] => "(" ++ decimal p ++ ",)"
  | ps => "(" ++ ", ".intercalate (ps.map decimal) ++ ")"

/-- The record of an event. -/
def Event.record : Event → Log.Record
  | amplifier _ e => e.record
  | settled phases signal feeds =>
    ⟨Log.Level.debug, "intcode.pipeline",
      "phases " ++ phasesText phases ++ " -> signal " ++ decimal signal ++ " after " ++
        toString feeds ++ " feeds"⟩
  | found signal phases =>
    ⟨Log.Level.info, "intcode.pipeline",
      "best signal " ++ decimal signal ++ " with phases " ++ phasesText phases⟩

/-- What a call on a chain gives back. -/
structure Response (α : Type) where
  result : Except Failure α
  chain : Chain
  events : Array Event

/-- The chain of machines over the same cells, one for each phase. -/
def ofCells (cells phases : List Int) (feedback : Bool) (h : phases ≠ []) : Chain where
  phases := phases
  feedback := feedback
  machines := (phases.map fun p ↦ Machine.ofCells cells [p] false).toArray
  signal := none
  feeds := 0
  nonempty := by
    simpa using List.length_pos_iff.mpr h

/-- The chain of machines over the same program text. Having no phases is the first thing to fail.
Models `intcode.pipeline.AmplifierPipeline.__init__`. -/
def ofText (program : String) (phases : List Int) (feedback : Bool) : Except Failure Chain :=
  if h : phases = [] then .error (.breach .noPhases)
  else
    match Program.parse program with
    | .error f => .error (.machine f)
    | .ok cells => .ok (ofCells cells phases feedback h)

/-- The number of machines. -/
def size (c : Chain) : Nat := c.machines.size

/-- The machine whose turn it is after so many others. -/
def machine (c : Chain) (turn : Nat) : Machine :=
  have inside : turn % c.machines.size < c.machines.size := Nat.mod_lt turn c.nonempty
  c.machines[turn % c.machines.size]

/-- The chain with the machine of a turn replaced. -/
def replace (c : Chain) (turn : Nat) (m : Machine) : Chain :=
  { c with
    machines := c.machines.set (turn % c.machines.size) m (Nat.mod_lt turn c.nonempty)
    nonempty := by simpa using c.nonempty }

/-- The last machine. Models `intcode.pipeline.AmplifierPipeline.last`. -/
def last (c : Chain) : Machine := c.machine (c.size - 1)

/-- How a chain shows itself. Models `intcode.pipeline.AmplifierPipeline.__repr__`. -/
def text (c : Chain) : String :=
  "AmplifierPipeline(phases=" ++ phasesText c.phases ++ ", " ++
    (if c.feedback then "feedback" else "serial") ++ ", feeds=" ++ toString c.feeds ++ ")"

/-- Whether no further turn is taken. Models `intcode.pipeline.AmplifierPipeline._done`. -/
def finished (c : Chain) (turn : Nat) : Bool :=
  c.last.state = .terminated || (!c.feedback && decide (c.size ≤ turn))

/-- The events of a machine as events of its chain. -/
def eventsOf (c : Chain) (turn : Nat) (events : Array DecimalMachine.Event) : Array Event :=
  events.map (.amplifier (turn % c.size))

/-- The machines of the given turns run on their phases, one after the other. The first loop of
`intcode.pipeline.AmplifierPipeline.run`. -/
def settle (allowance : Nat) : List Nat → Chain → Array Event → Option (Response Unit)
  | [], c, seen => some ⟨.ok (), c, seen⟩
  | turn :: turns, c, seen =>
    match (c.machine turn).run allowance with
    | none => none
    | some r =>
      let next := c.replace turn r.machine
      let seen := seen ++ c.eventsOf turn r.events
      match r.result with
      | .error f => some ⟨.error (.machine f), next, seen⟩
      | .ok _ => settle allowance turns next seen

/-- One turn: the signal is fed to a machine, and its answer is the new signal. A turn of the second
loop of `intcode.pipeline.AmplifierPipeline.run`. -/
def turn (allowance : Nat) (c : Chain) (turn : Nat) (signal : Int) : Option (Response Int) :=
  match (c.machine turn).feed allowance signal with
  | none => none
  | some r =>
    let next := c.replace turn r.machine
    let events := c.eventsOf turn r.events
    match r.result with
    | .error f => some ⟨.error (.machine f), next, events⟩
    | .ok _ =>
      match r.machine.outputs.size - (c.machine turn).outputs.size, r.machine.outputs.last? with
      | 1, some answer =>
        some ⟨.ok answer, { next with signal := some answer, feeds := c.feeds + 1 }, events⟩
      | produced, _ =>
        some ⟨.error (.breach (.outputCount produced (turn % c.size))), next, events⟩

/-- The signal of a chain that takes no further turn: the latest output of its last machine. The end of
`intcode.pipeline.AmplifierPipeline.run`. -/
def conclude (c : Chain) (seen : Array Event) : Response Int :=
  match c.feeds, c.last.outputs.last? with
  | 0, _ => ⟨.error (.breach (.noSignal (c.size - 1))), c, seen⟩
  | _, none => ⟨.error (.breach (.noSignal (c.size - 1))), c, seen⟩
  | feeds, some signal =>
    ⟨.ok signal, { c with signal := some signal }, seen.push (.settled c.phases signal feeds)⟩

/-- Turns until the chain is done, at most as many as allowed. The second loop of
`intcode.pipeline.AmplifierPipeline.run`. -/
def rounds (allowance : Nat) : Nat → Nat → Chain → Int → Array Event → Option (Response Int)
  | 0, _, _, _, _ => none
  | n + 1, i, c, signal, seen =>
    if c.finished i then some (c.conclude seen)
    else
      match c.turn allowance i signal with
      | none => none
      | some r =>
        match r.result with
        | .error e => some ⟨.error e, r.chain, seen ++ r.events⟩
        | .ok answer => rounds allowance n (i + 1) r.chain answer (seen ++ r.events)

/-- Runs a chain on a signal. The allowance bounds the run of every machine and the number of turns;
`none` says that it was too small. Models `intcode.pipeline.AmplifierPipeline.run`; specification 6. -/
def run (allowance : Nat) (c : Chain) (signal : Int) : Option (Response Int) :=
  match settle allowance (List.range c.size) c #[] with
  | none => none
  | some r =>
    match r.result with
    | .error e => some ⟨.error e, r.chain, r.events⟩
    | .ok () => rounds allowance allowance 0 { r.chain with signal := some signal } signal r.events

/-- Replacing a machine keeps the number of machines. -/
@[simp] theorem size_replace (c : Chain) (turn : Nat) (m : Machine) :
    (c.replace turn m).size = c.size := by
  simp [replace, size]

/-- The replaced machine is the one that was put in its place. -/
@[simp] theorem machine_replace_self (c : Chain) (turn : Nat) (m : Machine) :
    (c.replace turn m).machine turn = m := by
  simp [replace, machine]

end Chain

/-- What a new chain gives on a signal, and the events on the way. Models
`intcode.pipeline.run_amplifiers`. -/
def amplify (allowance : Nat) (program : String) (phases : List Int) (feedback : Bool)
    (signal : Int) : Option (Except Chain.Failure Int × Array Chain.Event) :=
  match Chain.ofText program phases feedback with
  | .error e => some (.error e, #[])
  | .ok c => (c.run allowance signal).map fun r ↦ (r.result, r.events)

end DecimalMachine
