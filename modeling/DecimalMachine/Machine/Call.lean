import DecimalMachine.Machine.Run

/-!
# Calls

Everything that can be asked of a machine, as data: histories of a machine are lists of calls.
-/

namespace DecimalMachine

/-- A call on a machine. The public operations of specification 6. -/
inductive Call where
  | run
  | step
  | feed (value : Int)
  | peek (address : Int)
  | poke (address value : Int)
  | moveTo (pc : Int)
  deriving DecidableEq, Repr

/-- What a call gives back when it succeeds. -/
inductive Reply where
  | state (s : State)
  | cell (value : Int)
  | done
  deriving DecidableEq, Repr

/-- A response with its value turned into another one. -/
def Response.map {α β : Type} (f : α → β) (r : Response α) : Response β :=
  ⟨r.result.map f, r.machine, r.events⟩

namespace Machine

/-- The cell at an address; a failure is no fault of the machine. Models
`intcode.machine.Machine.peek_memory`. -/
def peek (m : Machine) (a : Int) : Except Fault Int := m.memory.read a

/-- The machine with one cell overwritten; a failure is no fault of the machine. Models
`intcode.machine.Machine.poke`. -/
def poke (m : Machine) (a v : Int) : Except Fault Machine :=
  (m.memory.write a v).map fun memory ↦ { m with memory := memory }

/-- Carries out a call. -/
def call (allowance : Nat) (m : Machine) : Call → Option (Response Reply)
  | .run => (m.run allowance).map (Response.map .state)
  | .step => some (m.step.map .state)
  | .feed v => (m.feed allowance v).map (Response.map .state)
  | .peek a => some (m.unchanged ((m.peek a).map .cell))
  | .poke a v =>
    match m.poke a v with
    | .ok next => some (next.unchanged (.ok .done))
    | .error f => some (m.unchanged (.error f))
  | .moveTo pc => some (({ m with pc := pc } : Machine).unchanged (.ok .done))

end Machine
end DecimalMachine
