import DecimalMachine.Amplifier.Chain
import DecimalMachine.Mixed.Datum

/-!
# Mixed machines

A machine whose cells, inputs and outputs are data. With numbers alone it does what any machine does;
what it adds is the behaviour of voids. A clash is no fault: it is not reported and leaves no mark, but
nothing goes on after it. A record that has to show a void in decimal is never written: where the console
would show it there is a clash, and elsewhere it is left out.

There is a use for mixed machines only with the releases of `argparse` before 3.11.9 and 3.12.3, where an
option may be given without the value it takes.
-/

namespace DecimalMachine

open Text

/-- A machine over data. Models `intcode.machine.Machine`, given voids. -/
structure Mixed where
  cells : Array Datum
  pc : Int
  state : State
  inputs : List Datum
  outputs : Array Datum
  tracing : Bool
  trace : Array String
  /-- The level from which on records go to the console. -/
  console : Log.Level

namespace Mixed

/-- What ends the work of mixed machines. -/
inductive Trouble where
  | fault (f : Fault)
  | breach (b : Breach)
  /-- A void for a machine that has halted. -/
  | voidAfterHalt
  | clash (c : Clash)
  deriving DecidableEq, Repr

/-- What a call on a mixed machine gives back. -/
structure Response (α : Type) where
  result : Except Trouble α
  machine : Mixed
  records : Array Log.Record

/-- A machine as a mixed one. -/
def ofMachine (console : Log.Level) (m : Machine) : Mixed where
  cells := m.memory.cells.map .number
  pc := m.pc
  state := m.state
  inputs := m.inputs.map .number
  outputs := m.outputs.values.map .number
  tracing := m.tracing
  trace := m.trace
  console := console

/-- The number of cells. -/
def size (m : Mixed) : Nat := m.cells.size

/-- Whether an address has a cell. -/
def contains (m : Mixed) (a : Int) : Bool := decide (0 ≤ a ∧ a < m.size)

/-- The trouble of an address without a cell. -/
def outside (m : Mixed) (a : Int) : Trouble := .fault (.outOfBounds a m.size)

/-- Whether a record that shows a void in decimal would go to the console. -/
def clashes (console level : Log.Level) : Bool := decide (console ≤ level)

/-! ## Reading an instruction -/

/-- The datum in the cell that another datum is the address of. -/
def read (m : Mixed) (address : Datum) : Except Trouble Datum :=
  match address.asNumber with
  | .error c => .error (.clash c)
  | .ok a =>
    match if 0 ≤ a then m.cells[a.toNat]? else none with
    | some d => .ok d
    | none => .error (m.outside a)

/-- An operand cell under its mode. -/
structure Operand where
  mode : Mode
  cell : Datum

/-- The operation at the program counter, with its operands. -/
def decode (m : Mixed) : Except Trouble (Operation × List Operand) := do
  let datum ← m.read (.number m.pc)
  let word ← datum.asNumber.mapError .clash
  let (operation, modes) ← (Instruction.unpack word (some m.pc)).mapError .fault
  let first := m.pc.toNat + 1
  if 0 < modes.length ∧ m.size < first + modes.length then .error (m.outside m.size)
  else
    let cells := (m.cells.extract first (first + modes.length)).toList
    return (operation, modes.zipWith Operand.mk cells)

/-- The datum of an operand that is read. Models `intcode.machine.Machine._resolve`. -/
def source (m : Mixed) (o : Operand) : Except Trouble Datum :=
  match o.mode with
  | .position => m.read o.cell
  | .immediate => .ok o.cell
  | .unassigned d => .error (.fault (.badMode d (some m.pc) Fault.unknownMode))

/-- The address of an operand that is written. Models `intcode.machine.Machine._destination`. -/
def destination (m : Mixed) (o : Operand) : Except Trouble Int :=
  match o.mode, o.cell with
  | .position, .void => .error (.clash (.order "<=" (.number 0) .void))
  | .position, .number a => if m.contains a then .ok a else .error (m.outside a)
  | .immediate, _ => .error (.fault (.badMode 1 (some m.pc) Fault.immediateDestination))
  | .unassigned d, _ => .error (.fault (.badMode d (some m.pc) Fault.unknownMode))

/-! ## One instruction -/

/-- Two data are read and a result of both is stored. -/
def combine (m : Mixed) (f : Datum → Datum → Except Clash Datum) (a b c : Operand) :
    Except Trouble (Effect Datum) := do
  let left ← m.source a
  let right ← m.source b
  let address ← m.destination c
  let result ← (f left right).mapError .clash
  return .store address result

/-- A datum and a target are read, and the jump is taken if the datum passes the test. -/
def branch (m : Mixed) (test : Datum → Bool) (a b : Operand) : Except Trouble (Effect Datum) := do
  let datum ← m.source a
  let target ← m.source b
  if test datum then
    match target.asNumber with
    | .error c => .error (.clash c)
    | .ok t => if t < 0 then .error (m.outside t) else .ok (.jump t)
  else .ok .pass

/-- What an operation does with the operands at the given places. -/
def effect (m : Mixed) (o : Operation) (operand : Nat → Operand) :
    Except Trouble (Effect Datum) :=
  match o with
  | .add => m.combine Datum.sum (operand 0) (operand 1) (operand 2)
  | .multiply => m.combine Datum.product (operand 0) (operand 1) (operand 2)
  | .lessThan => m.combine Datum.smaller (operand 0) (operand 1) (operand 2)
  | .equals => m.combine Datum.same (operand 0) (operand 1) (operand 2)
  | .input =>
    match m.inputs with
    | [] => .ok .suspend
    | d :: _ => (m.destination (operand 0)).map fun address ↦ .take address d
  | .output => (m.source (operand 0)).map .emit
  | .jumpIfTrue => m.branch Datum.nonzero (operand 0) (operand 1)
  | .jumpIfFalse => m.branch Datum.zero (operand 0) (operand 1)
  | .halt => .ok .halt

/-- The machine after an effect of an instruction of the given width. -/
def apply (m : Mixed) (width : Nat) : Effect Datum → Mixed
  | .store a d => { m with cells := m.cells.setIfInBounds a.toNat d, pc := m.pc + width }
  | .take a d =>
    { m with
      cells := m.cells.setIfInBounds a.toNat d, inputs := m.inputs.tail, pc := m.pc + width }
  | .emit d => { m with outputs := m.outputs.push d, pc := m.pc + width }
  | .jump target => { m with pc := target }
  | .pass => { m with pc := m.pc + width }
  | .suspend => { m with state := .waitingForInput }
  | .halt => { m with state := .terminated }

/-- The response of a machine that gets into trouble; only faults are reported. -/
def inTrouble {α : Type} (m : Mixed) (t : Trouble) (seen : Array Log.Record) : Response α :=
  match t with
  | .fault f => ⟨.error t, m, seen.push (Event.faulted m.pc f).record⟩
  | t => ⟨.error t, m, seen⟩

/-- The line that notes an instruction. -/
def traceLine (m : Mixed) (o : Operation) (operands : List Operand) : String :=
  zeroPadded 4 m.pc ++ ": " ++ o.line (operands.map fun p ↦ p.mode.wrap p.cell.text)

/-- The records of an effect at a program counter. -/
def effectRecords (pc : Int) : Effect Datum → Array Log.Record
  | .emit (.number n) => #[(Event.output pc n).record]
  | .suspend => #[(Event.waiting pc).record]
  | _ => #[]

/-- One instruction, for a machine that runs. A void is put out before the record of it clashes. Models
`intcode.machine.Machine._step`. -/
def cycle (m : Mixed) : Response State :=
  match m.decode with
  | .error t => m.inTrouble t #[]
  | .ok (o, operands) =>
    let line := m.traceLine o operands
    let noted := if m.tracing then { m with trace := m.trace.push line } else m
    let records := if m.tracing then #[(Event.traced line).record] else #[]
    match m.effect o fun k ↦ operands.getD k ⟨.position, .number 0⟩ with
    | .error t => noted.inTrouble t records
    | .ok e =>
      if e = .emit .void ∧ clashes m.console Log.Level.debug then
        ⟨.error (.clash .notDecimal), { noted with outputs := noted.outputs.push .void }, records⟩
      else
        let records := records ++ effectRecords m.pc e
        let next := noted.apply (1 + operands.length) e
        ⟨.ok next.state, next, records⟩

/-! ## Runs -/

/-- A run with an allowance, after the records made in the same call. -/
def runFrom : Nat → Mixed → Array Log.Record → Option (Response State)
  | 0, _, _ => none
  | n + 1, m, seen =>
    if m.state = .running then
      if m.contains m.pc then
        let r := m.cycle
        match r.result with
        | .error t => some ⟨.error t, r.machine, seen ++ r.records⟩
        | .ok _ => runFrom n r.machine (seen ++ r.records)
      else some (m.inTrouble (.fault (.ranOff m.pc m.size)) seen)
    else some ⟨.ok m.state, m, seen.push (Event.stopped m.state m.pc).record⟩

/-- Runs until the machine halts, waits or gets into trouble. Models `intcode.machine.Machine.run`. -/
def run (allowance : Nat) (m : Mixed) : Option (Response State) :=
  runFrom allowance { m with state := .running } #[(Event.entered m.state m.pc).record]

/-- Hands a machine that waits one more input, and runs it. One that has halted refuses it. Models
`intcode.machine.Machine.feed_input`. -/
def feed (allowance : Nat) (m : Mixed) (d : Datum) : Option (Response State) :=
  if m.state = .terminated then
    match d with
    | .number n => some ⟨.error (.fault (.fedAfterHalt n)), m, #[]⟩
    | .void => some ⟨.error .voidAfterHalt, m, #[]⟩
  else { m with inputs := m.inputs ++ [d] }.run allowance

end Mixed
end DecimalMachine
