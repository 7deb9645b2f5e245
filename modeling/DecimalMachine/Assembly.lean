import DecimalMachine.Instruction
import DecimalMachine.Text.Blank

/-!
# Assembly text

An operand is written by its mode: an address in brackets, a value behind a hash sign, and for a mode
without a meaning a question mark with the digit. A destination stands behind an arrow.
-/

namespace DecimalMachine

open Text

/-- A text without blank characters at its ends. -/
def strip (s : String) : String := String.ofList (trim isBlank s.toList)

/-- The text of an operand cell under its mode. -/
def Mode.wrap (cell : String) : Mode → String
  | position => "[" ++ cell ++ "]"
  | immediate => "#" ++ cell
  | unassigned d => "?" ++ decimal d ++ ":" ++ cell

/-- An operand cell under its mode. Models `intcode.disasm.format_operand`. -/
def Mode.operandText (value : Int) (m : Mode) : String := m.wrap (decimal value)

namespace Operation

/-- The texts of operands with commas between the sources and an arrow before the destination. -/
def joined (o : Operation) (parts : List String) : String :=
  match o.stores, parts.getLast? with
  | true, some destination =>
    let sources := ", ".intercalate parts.dropLast
    if sources = "" then "-> " ++ destination else sources ++ " -> " ++ destination
  | _, _ => ", ".intercalate parts

/-- The mnemonic and the texts of the operands. -/
def line (o : Operation) (parts : List String) : String :=
  strip (o.mnemonic ++ " " ++ o.joined parts)

end Operation

namespace Instruction

/-- The operands that have both a cell and a mode, each as text. -/
def operandTexts (i : Instruction) : List String := i.operands.zipWith Mode.operandText i.modes

/-- The operands as they stand behind the mnemonic. Models `intcode.disasm.format_operands`. -/
def operandsText (i : Instruction) : String := i.operation.joined i.operandTexts

/-- The mnemonic and the operands. Models `intcode.disasm.format_instruction`; specification 6. -/
def text (i : Instruction) : String := i.operation.line i.operandTexts

end Instruction
end DecimalMachine
