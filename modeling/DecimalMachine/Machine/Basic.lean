import DecimalMachine.Instruction
import DecimalMachine.Log.Record
import DecimalMachine.Outputs
import DecimalMachine.Program

/-!
# The machine

A machine holds a program that is also its memory, a program counter, the inputs not read yet and the
outputs made so far. It waits by returning in a state of its own, never by blocking. A fault is kept,
and ends the machine for good.
-/

namespace DecimalMachine

open Text

/-- Where a machine stands between two calls. Models `intcode.machine.State`; specification 3 and
4.4. -/
inductive State where
  | initialized
  | running
  | waitingForInput
  | terminated
  deriving DecidableEq, Repr

/-- The name of a state. -/
def State.name : State → String
  | initialized => "INITIALIZED"
  | running => "RUNNING"
  | waitingForInput => "WAITING_FOR_INPUT"
  | terminated => "TERMINATED"

/-- A machine at one moment. Models `intcode.machine.Machine`; specification 3. -/
structure Machine where
  memory : Memory
  pc : Int
  state : State
  /-- What stopped the machine for good. -/
  fault : Option Fault
  /-- Inputs not read yet, the next one first. -/
  inputs : List Int
  outputs : Outputs
  /-- Whether every decoded instruction is noted. -/
  tracing : Bool
  /-- The instructions noted so far. -/
  trace : Array String
  deriving DecidableEq, Repr

/-- Something a machine reports while it works. The calls on the logger of `intcode.machine`;
specification 10. -/
inductive Event where
  | entered (left : State) (pc : Int)
  | traced (line : String)
  | waiting (pc : Int)
  | output (pc value : Int)
  | faulted (pc : Int) (fault : Fault)
  | stopped (state : State) (pc : Int)
  deriving DecidableEq, Repr

namespace Event

/-- The importance of an event: only a fault is more than a detail. -/
def level : Event → Log.Level
  | faulted _ _ => Log.Level.info
  | _ => Log.Level.debug

/-- How an event is told. -/
def message : Event → String
  | entered left pc => left.name ++ " -> RUNNING at pc=" ++ decimal pc
  | traced line => "trace " ++ line
  | waiting pc => "pc=" ++ decimal pc ++ " waiting for input"
  | output pc value => "pc=" ++ decimal pc ++ " output " ++ decimal value
  | faulted pc fault => "machine fault at pc=" ++ decimal pc ++ ": " ++ fault.message
  | stopped state pc => "run stopped: " ++ state.name ++ " at pc=" ++ decimal pc

/-- The record of an event. -/
def record (e : Event) : Log.Record := ⟨e.level, "intcode.machine", e.message⟩

end Event

/-- What a call on a machine gives back: a value or a fault, the machine afterwards, and the events
reported during the call. -/
structure Response (α : Type) where
  result : Except Fault α
  machine : Machine
  events : Array Event

namespace Machine

/-- A machine that has not started. -/
def ofCells (cells inputs : List Int) (tracing : Bool) : Machine where
  memory := Memory.ofList cells
  pc := 0
  state := .initialized
  fault := none
  inputs := inputs
  outputs := Outputs.empty
  tracing := tracing
  trace := #[]

/-- A machine that has not started, with the program in a text. Models
`intcode.machine.Machine.__init__`. -/
def ofText (program : String) (inputs : List Int) (tracing : Bool) : Except Fault Machine :=
  (Program.parse program).map fun cells ↦ ofCells cells inputs tracing

/-- How a machine shows itself. Models `intcode.machine.Machine.__repr__`. -/
def text (m : Machine) : String :=
  "Machine(state=" ++ m.state.name ++ ", pc=" ++ decimal m.pc ++ ", len=" ++
    toString m.memory.size ++ ", outputs=" ++ toString m.outputs.size ++ ")"

/-- The response of a machine that is left as it was. -/
def unchanged {α : Type} (m : Machine) (result : Except Fault α) : Response α := ⟨result, m, #[]⟩

/-- An unchanged machine is left. -/
@[simp] theorem machine_unchanged {α : Type} (m : Machine) (result : Except Fault α) :
    (m.unchanged result).machine = m := rfl

/-- An unchanged machine answers as it was told to. -/
@[simp] theorem result_unchanged {α : Type} (m : Machine) (result : Except Fault α) :
    (m.unchanged result).result = result := rfl

/-- The response of a machine that meets a fault, after the events seen in the same call. Models
`intcode.machine.Machine._fail`. -/
def faultWith {α : Type} (m : Machine) (f : Fault) (seen : Array Event) : Response α :=
  ⟨.error f, { m with fault := some f }, seen.push (.faulted m.pc f)⟩

end Machine
end DecimalMachine
