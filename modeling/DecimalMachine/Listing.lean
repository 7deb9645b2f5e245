import DecimalMachine.Assembly
import DecimalMachine.Program

/-!
# Listings

A listing goes through a memory from its first cell to its last. Where an instruction can be decoded it
takes all the cells of the instruction; any other cell is shown alone, as data. Data are marked when
the memory ends before the operands of the word do.
-/

namespace DecimalMachine

open Text

/-- One line of a listing. Models `intcode.disasm.DisassembledInstruction`; specification 6. -/
structure Line where
  address : Int
  cells : List Int
  mnemonic : String
  operands : String
  comment : String
  deriving DecidableEq, Repr

namespace Line

/-- The number of cells that a line shows. Models
`intcode.disasm.DisassembledInstruction.__post_init__`. -/
def width (l : Line) : Nat := l.cells.length

/-- The cells of a line with a space between them. Models
`intcode.disasm.DisassembledInstruction.cells_str`. -/
def cellsText (l : Line) : String := " ".intercalate (l.cells.map decimal)

/-- The line with its address, its cells filled up to a width, the assembly text, and the comment.
Models `intcode.disasm.DisassembledInstruction.format`. -/
def format (l : Line) (cellsWidth : Int) : String :=
  zeroPadded 4 l.address ++ ": " ++ rightPadded cellsWidth.toNat l.cellsText ++ " " ++
    strip (l.mnemonic ++ " " ++ l.operands) ++
    (if l.comment = "" then "" else "  ; " ++ l.comment)

/-- The width of the cell column in a listing. -/
def columnWidth : Int := 16

/-- The line as it stands in a listing. -/
def text (l : Line) : String := l.format columnWidth

/-- The line of a decoded instruction. -/
def ofInstruction (i : Instruction) : Line where
  address := i.address
  cells := i.word :: i.operands
  mnemonic := i.operation.mnemonic
  operands := i.operandsText
  comment := ""

/-- The line of a cell that is no instruction. Models `intcode.disasm._make_data`. -/
def ofData (address word : Int) (comment : String) : Line where
  address := address
  cells := [word]
  mnemonic := "DATA"
  operands := decimal word
  comment := comment

/-- The comment on a word whose operands lie beyond the end. -/
def truncated : String := "truncated"

/-- The line at an address that holds the given word. -/
def ofCell (m : Memory) (address word : Int) : Line :=
  match Instruction.decode m address with
  | .ok i => ofInstruction i
  | .error (.outOfBounds _ _) => ofData address word truncated
  | .error _ => ofData address word ""

private theorem width_ofCell_pos (m : Memory) (address word : Int) :
    0 < (Line.ofCell m address word).width := by
  unfold Line.ofCell
  split <;> simp [width, ofInstruction, ofData]

end Line

namespace Listing

/-- The lines from an address to the end of a memory. The loop of `intcode.disasm.disassemble`. -/
def linesFrom (m : Memory) (address : Nat) : List Line :=
  if h : address < m.cells.size then
    let l := Line.ofCell m address m.cells[address]
    l :: linesFrom m (address + l.width)
  else []
termination_by m.cells.size - address
decreasing_by
  have := Line.width_ofCell_pos m address m.cells[address]
  omega

/-- The lines of a whole memory. Models `intcode.disasm.disassemble`; specification 6. -/
def lines (m : Memory) : List Line := linesFrom m 0

/-- The listing of a memory, one line below the other. Models `intcode.disasm.listing`. -/
def text (m : Memory) : String := "\n".intercalate ((lines m).map Line.text)

/-- The memory of a program text, to be listed. -/
def memoryOf (program : String) : Except Fault Memory :=
  (Program.parse program).map Memory.ofList

end Listing
end DecimalMachine
