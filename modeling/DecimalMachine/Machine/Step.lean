import DecimalMachine.Arithmetic
import DecimalMachine.Assembly
import DecimalMachine.Machine.Basic

/-!
# One instruction

The effect of an instruction is found first, with every check it needs, and only then applied. So an
instruction that meets a fault changes nothing, whatever its operands overlap with.
-/

namespace DecimalMachine

open Text

/-- What an instruction does once nothing can go wrong any more, with values of a given kind. -/
inductive Effect (α : Type) where
  /-- A result is stored. -/
  | store (address : Int) (value : α)
  /-- The next input is stored and used up. -/
  | take (address : Int) (value : α)
  /-- A value is put out. -/
  | emit (value : α)
  /-- A jump is taken. -/
  | jump (target : Int)
  /-- A jump is not taken. -/
  | pass
  /-- There is no input to read. -/
  | suspend
  /-- The program ends. -/
  | halt
  deriving DecidableEq, Repr

namespace Instruction

/-- The cell of an operand. -/
def operand (i : Instruction) (k : Nat) : Int := i.operands.getD k 0

/-- The mode of an operand; an operand without one is an address. -/
def mode (i : Instruction) (k : Nat) : Mode := i.modes.getD k .position

/-- The value of an operand that is read. Models `intcode.machine.Machine._resolve`. -/
def source (i : Instruction) (m : Memory) (k : Nat) : Except Fault Int :=
  match i.mode k with
  | .position => m.read (i.operand k)
  | .immediate => .ok (i.operand k)
  | .unassigned d => .error (.badMode d (some i.address) Fault.unknownMode)

/-- The address of an operand that is written; only an address will do. Models
`intcode.machine.Machine._destination`; specification 4.3. -/
def destination (i : Instruction) (m : Memory) (k : Nat) : Except Fault Int :=
  match i.mode k with
  | .position =>
    if m.contains (i.operand k) then .ok (i.operand k) else .error (m.outside (i.operand k))
  | .immediate => .error (.badMode 1 (some i.address) Fault.immediateDestination)
  | .unassigned d => .error (.badMode d (some i.address) Fault.unknownMode)

/-- Two values are read and a result of both is stored. Models `intcode.machine.Machine._op_binary`. -/
def combine (i : Instruction) (m : Memory) (f : Int → Int → Int) : Except Fault (Effect Int) := do
  let a ← i.source m 0
  let b ← i.source m 1
  let address ← i.destination m 2
  return .store address (f a b)

/-- A value and a target are read, and the jump is taken if the value passes the test. The target is
read in any case; one below zero is no address. Models `intcode.machine.Machine._op_jump`. -/
def branch (i : Instruction) (m : Memory) (test : Int → Bool) : Except Fault (Effect Int) := do
  let value ← i.source m 0
  let target ← i.source m 1
  if test value then
    if target < 0 then .error (m.outside target) else .ok (.jump target)
  else .ok .pass

/-- What an instruction does to a machine with the given memory and inputs. Without an input to read
the destination is not looked at. The handlers that `intcode.machine.Machine._build_dispatch` lists;
specification 4.3. -/
def effect (i : Instruction) (m : Memory) (inputs : List Int) : Except Fault (Effect Int) :=
  match i.operation with
  | .add => i.combine m Operation.sum
  | .multiply => i.combine m Operation.product
  | .lessThan => i.combine m Operation.smaller
  | .equals => i.combine m Operation.same
  | .input =>
    match inputs with
    | [] => .ok .suspend
    | v :: _ => (i.destination m 0).map fun address ↦ .take address v
  | .output => (i.source m 0).map .emit
  | .jumpIfTrue => i.branch m Operation.nonzero
  | .jumpIfFalse => i.branch m Operation.zero
  | .halt => .ok .halt

/-- The line that notes an instruction: its address and its assembly text. From
`intcode.machine.Machine._step`. -/
def traceLine (i : Instruction) : String := zeroPadded 4 i.address ++ ": " ++ i.text

end Instruction

/-- The events of an effect at a program counter. -/
def Effect.events (pc : Int) : Effect Int → Array Event
  | emit v => #[.output pc v]
  | suspend => #[.waiting pc]
  | _ => #[]

namespace Machine

/-- The machine after an effect of an instruction of the given width. -/
def apply (m : Machine) (width : Nat) : Effect Int → Machine
  | .store a v => { m with memory := m.memory.set a v, pc := m.pc + width }
  | .take a v =>
    { m with memory := m.memory.set a v, inputs := m.inputs.tail, pc := m.pc + width }
  | .emit v => { m with outputs := m.outputs.push v, pc := m.pc + width }
  | .jump target => { m with pc := target }
  | .pass => { m with pc := m.pc + width }
  | .suspend => { m with state := .waitingForInput }
  | .halt => { m with state := .terminated }

/-- The machine that has noted an instruction, if it notes them at all. -/
def note (m : Machine) (i : Instruction) : Machine :=
  if m.tracing then { m with trace := m.trace.push i.traceLine } else m

/-- The event of noting an instruction. -/
def noteEvents (m : Machine) (i : Instruction) : Array Event :=
  if m.tracing then #[.traced i.traceLine] else #[]

/-- One instruction, for a machine that runs. Models `intcode.machine.Machine._step`;
specification 4.4. -/
def cycle (m : Machine) : Response State :=
  match Instruction.decode m.memory m.pc with
  | .error f => m.faultWith f #[]
  | .ok i =>
    let noted := m.noteEvents i
    match i.effect m.memory m.inputs with
    | .error f => (m.note i).faultWith f noted
    | .ok e =>
      let events := noted ++ e.events m.pc
      let next := (m.note i).apply i.width e
      ⟨.ok next.state, next, events⟩

/-- The machine that runs. From `intcode.machine.Machine._enter_running`. -/
def start (m : Machine) : Machine := { m with state := .running }

/-- The event of starting to run. From `intcode.machine.Machine._enter_running`. -/
def startEvents (m : Machine) : Array Event :=
  if m.state = .running then #[] else #[.entered m.state m.pc]

/-- The fault of a program counter outside the program. From `intcode.machine.Machine.run` and
`intcode.machine.Machine.step`. -/
def ranOff (m : Machine) : Fault := .ranOff m.pc m.memory.size

/-- Exactly one instruction. A faulted machine gives its fault again, and one that has halted does
nothing more. Models `intcode.machine.Machine.step`; specification 4.4. -/
def step (m : Machine) : Response State :=
  match m.fault with
  | some f => m.unchanged (.error f)
  | none =>
    if m.state = .terminated then m.unchanged (.ok .terminated)
    else if m.memory.contains m.pc then
      let r := m.start.cycle
      { r with events := m.startEvents ++ r.events }
    else m.start.faultWith m.ranOff m.startEvents

end Machine
end DecimalMachine
