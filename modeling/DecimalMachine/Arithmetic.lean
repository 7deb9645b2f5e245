import DecimalMachine.Instruction

/-!
# Results of operations

Arithmetic and comparison give a value to store; a comparison stores one if it holds and zero if not.
A condition says whether a jump is taken.
-/

namespace DecimalMachine.Operation

/-- The sum of two values. Models `intcode.cpu.alu.add`. -/
def sum (a b : Int) : Int := a + b

/-- The product of two values. Models `intcode.cpu.alu.multiply`. -/
def product (a b : Int) : Int := a * b

/-- One if the first value is smaller, otherwise zero. Models `intcode.cpu.alu.less_than`. -/
def smaller (a b : Int) : Int := if a < b then 1 else 0

/-- One if the values are equal, otherwise zero. Models `intcode.cpu.alu.equals`. -/
def same (a b : Int) : Int := if a = b then 1 else 0

/-- Whether a value counts as true. Models `intcode.cpu.alu.is_true`. -/
def nonzero (a : Int) : Bool := decide (a ≠ 0)

/-- Whether a value counts as false. Models `intcode.cpu.alu.is_false`. -/
def zero (a : Int) : Bool := decide (a = 0)

end DecimalMachine.Operation
