import DecimalMachine.Memory

/-!
# Words and instructions

A word packs an operation into its two lowest decimal digits and the modes of its operands into the
digits above, the first operand lowest. The operation alone fixes how many operand cells follow.
-/

namespace DecimalMachine

/-- What an instruction does. Models `intcode.cpu.decoder.Opcode`; specification 4.2. -/
inductive Operation where
  | add
  | multiply
  | input
  | output
  | jumpIfTrue
  | jumpIfFalse
  | lessThan
  | equals
  | halt
  deriving DecidableEq, Repr

namespace Operation

/-- The two lowest digits of a word. -/
def code : Operation → Nat
  | add => 1
  | multiply => 2
  | input => 3
  | output => 4
  | jumpIfTrue => 5
  | jumpIfFalse => 6
  | lessThan => 7
  | equals => 8
  | halt => 99

/-- The operation with a code. -/
def ofCode? : Int → Option Operation
  | 1 => some add
  | 2 => some multiply
  | 3 => some input
  | 4 => some output
  | 5 => some jumpIfTrue
  | 6 => some jumpIfFalse
  | 7 => some lessThan
  | 8 => some equals
  | 99 => some halt
  | _ => none

/-- The name of an operation in assembly text. Models `intcode.cpu.decoder.Instruction.mnemonic`. -/
def mnemonic : Operation → String
  | add => "ADD"
  | multiply => "MUL"
  | input => "IN"
  | output => "OUT"
  | jumpIfTrue => "JNZ"
  | jumpIfFalse => "JZ"
  | lessThan => "LT"
  | equals => "EQ"
  | halt => "HLT"

/-- How many operand cells follow the word. From `intcode.cpu.decoder.OPCODES`. -/
def arity : Operation → Nat
  | add | multiply | lessThan | equals => 3
  | jumpIfTrue | jumpIfFalse => 2
  | input | output => 1
  | halt => 0

/-- Whether the last operand says where the result goes. Models
`intcode.cpu.decoder.Instruction.has_destination`. -/
def stores : Operation → Bool
  | add | multiply | lessThan | equals | input => true
  | output | jumpIfTrue | jumpIfFalse | halt => false

/-- A code is read back as its operation. -/
@[simp] theorem ofCode?_code (o : Operation) : ofCode? o.code = some o := by
  cases o <;> rfl

/-- Only the code of an operation is read as that operation. -/
theorem ofCode?_eq_some_iff {n : Int} {o : Operation} : ofCode? n = some o ↔ n = o.code := by
  constructor
  · unfold ofCode?
    split <;> rintro ⟨⟩ <;> rfl
  · rintro rfl
    exact ofCode?_code o

/-- The number of operands of the operation with a code, or the fault of having none. Models
`intcode.cpu.decoder.operand_count`. -/
def arityOf (opcode : Int) : Except Fault Nat :=
  match ofCode? opcode with
  | some o => .ok o.arity
  | none => .error (.unknownOperation opcode none)

end Operation

/-- How an operand cell is meant. Models `intcode.cpu.decoder.Mode`, and the digits that it does not
name; specification 3. -/
inductive Mode where
  /-- The cell holds an address. -/
  | position
  /-- The cell holds the value itself. -/
  | immediate
  /-- A digit without a meaning; it is kept until the operand is used. -/
  | unassigned (digit : Int)
  deriving DecidableEq, Repr

namespace Mode

/-- The mode that a digit stands for. -/
def ofDigit : Int → Mode
  | 0 => position
  | 1 => immediate
  | d => unassigned d

/-- The digit of a mode. -/
def digit : Mode → Int
  | position => 0
  | immediate => 1
  | unassigned d => d

/-- A digit can be read off its mode. -/
@[simp] theorem digit_ofDigit (d : Int) : (ofDigit d).digit = d := by
  unfold ofDigit
  split <;> rfl

/-- The lowest decimal digits of an integer, lowest first. -/
def digits : Nat → Int → List Int
  | 0, _ => []
  | k + 1, n => n % 10 :: digits k (n / 10)

/-- The modes in a word, for so many operands; a count below one gives none. Models
`intcode.cpu.decoder.parse_modes`. -/
def ofWord (word count : Int) : List Mode := (digits count.toNat (word / 100)).map ofDigit

/-- As many digits are taken as were asked for. -/
@[simp] theorem length_digits (k : Nat) (n : Int) : (digits k n).length = k := by
  induction k generalizing n with
  | zero => rfl
  | succ k ih => simp [digits, ih]

/-- A word gives one mode for each operand. -/
@[simp] theorem length_ofWord (word count : Int) : (ofWord word count).length = count.toNat := by
  simp [ofWord]

end Mode

/-- An instruction as it stands in memory. Models `intcode.cpu.decoder.Instruction`;
specification 3. -/
structure Instruction where
  address : Int
  word : Int
  operation : Operation
  operands : List Int
  modes : List Mode
  deriving DecidableEq, Repr

namespace Instruction

/-- The number of cells an instruction takes: its word and its operands. Models
`intcode.cpu.decoder.Instruction.width`. -/
def width (i : Instruction) : Nat := 1 + i.operands.length

/-- The operation and the modes that a word packs. A negative word packs nothing, and is named whole;
otherwise the two lowest digits are named if they belong to no operation. Models
`intcode.cpu.decoder.decode_word`; specification 4.2. -/
def unpack (word : Int) (address : Option Int) : Except Fault (Operation × List Mode) :=
  if word < 0 then .error (.unknownOperation word address)
  else
    match Operation.ofCode? (word % 100) with
    | some o => .ok (o, Mode.ofWord word o.arity)
    | none => .error (.unknownOperation (word % 100) address)

/-- The instruction at an address. Models `intcode.cpu.decoder.decode`; specification 4.2. -/
def decode (m : Memory) (pc : Int) : Except Fault Instruction :=
  match m.read pc with
  | .error f => .error f
  | .ok word =>
    match unpack word (some pc) with
    | .error f => .error f
    | .ok (operation, modes) =>
      match m.readWindow (pc + 1) modes.length with
      | .error f => .error f
      | .ok operands => .ok ⟨pc, word, operation, operands, modes⟩

end Instruction
end DecimalMachine
