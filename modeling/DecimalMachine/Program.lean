import DecimalMachine.Fault
import DecimalMachine.Text.Utf8

/-!
# Program text

A program is written as signed decimal integers with commas between them and nothing else. A file
may hold other characters as well; they are dropped before the text is parsed.

Integers of any length are read and written: the limit of 4,300 digits that an interpreter may put on
decimal text is left out.
-/

namespace DecimalMachine.Program

open Text

/-- The character between two cells. Models `intcode.config.DELIMITER`. -/
def delimiter : Char := ','

/-- The characters of program text, in the order of their code points. Models
`intcode.config.PROGRAM_CHARS`. -/
def alphabet : List Char := [',', '-', '0', '1', '2', '3', '4', '5', '6', '7', '8', '9']

/-- The number written by one or more digits. -/
def natural? (cs : List Char) : Option Nat :=
  if cs ≠ [] ∧ cs.all Char.isDigit then some (Nat.ofDigitChars 10 cs 0) else none

/-- The integer that a piece of program text denotes: digits behind at most one minus sign. The pattern
of `intcode.mem.memory.parse_program`. -/
def token? : List Char → Option Int
  | '-' :: cs => (natural? cs).map fun n ↦ -(n : Int)
  | cs => (natural? cs).map Int.ofNat

/-- The integers denoted by pieces of text, the first of which has the given position. -/
def parseTokens (position : Nat) : List (List Char) → Except Fault (List Int)
  | [] => .ok []
  | t :: ts =>
    match token? t with
    | none => .error (.badToken (String.ofList t) position)
    | some n => (parseTokens (position + 1) ts).map (n :: ·)

/-- The cells that a program text denotes, or the first piece that is no integer. Models
`intcode.mem.memory.parse_program`; specification 6. -/
def parse (text : String) : Except Fault (List Int) :=
  parseTokens 0 (text.toList.splitOn delimiter)

/-- The text of a program. -/
def render (cells : List Int) : String :=
  (String.singleton delimiter).intercalate (cells.map decimal)

/-- A text without the characters that program text does not use. -/
def filter (text : String) : String := String.ofList (text.toList.filter (alphabet.contains ·))

/-- The program text in the bytes of a file. Models `intcodekit.read_program_text`. -/
def ofBytes (bytes : ByteArray) : Except Utf8.Fault String := (Utf8.decode bytes).map filter

/-- The digits of a number denote the number. -/
theorem natural?_repr (n : Nat) : natural? (toString n).toList = some n := by
  have nonempty : (toString n).toList ≠ [] := by
    rw [Nat.toString_eq_ofList_toDigits, String.toList_ofList]
    exact Nat.toDigits_ne_nil
  have digits : (toString n).toList.all Char.isDigit = true :=
    List.all_eq_true.mpr fun _ h ↦ isDigit_of_mem_repr h
  rw [natural?, if_pos ⟨nonempty, digits⟩, ofDigitChars_repr]

end DecimalMachine.Program
