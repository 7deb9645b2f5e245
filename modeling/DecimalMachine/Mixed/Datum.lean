import DecimalMachine.Outputs

/-!
# Numbers and voids

Where a number is wanted a request may give none, and yet give something: a void. A void can be stored,
handed on and put out, it equals only other voids, counts as true, and swallows a number it is multiplied
with. Two voids are neither smaller than the other, and their sum is void. Everything else that is tried
with a void is a clash.

Voids come from options given without the value they take, which the releases of `argparse` before 3.11.9
and 3.12.3 let pass: the value is then an empty list. With later releases there are numbers only.
-/

namespace DecimalMachine

open Text

/-- A number, or the void left where a number was not given. -/
inductive Datum where
  | number (n : Int)
  | void
  deriving DecidableEq, Repr

namespace Datum

/-- How a datum is written. -/
def text : Datum → String
  | number n => decimal n
  | void => "[]"

/-- What kind of datum it is, as clashes tell it. -/
def kind : Datum → String
  | number _ => "int"
  | void => "list"

/-- The numbers in data without voids. -/
def numbers? : List Datum → Option (List Int)
  | [] => some []
  | number n :: ds => (numbers? ds).map (n :: ·)
  | void :: _ => none

end Datum

/-- Why something cannot be done with data. -/
inductive Clash where
  /-- A number and a void have no order. -/
  | order (relation : String) (left right : Datum)
  /-- A void added to a number. -/
  | voidAdded
  /-- A number added to a void. -/
  | numberAdded
  /-- Two voids multiplied. -/
  | voidsMultiplied
  /-- A void multiplied with a number that no position could be. -/
  | hugeFactor
  /-- A void to be shown in decimal. -/
  | notDecimal
  /-- A void in place of a text to be taken apart. -/
  | notText
  /-- A void in place of a name to be looked up. -/
  | notName
  deriving DecidableEq, Repr

/-- How a clash is told. -/
def Clash.message : Clash → String
  | order relation left right =>
    "'" ++ relation ++ "' not supported between instances of '" ++ left.kind ++ "' and '" ++
      right.kind ++ "'"
  | voidAdded => "unsupported operand type(s) for +: 'int' and 'list'"
  | numberAdded => "can only concatenate list (not \"int\") to list"
  | voidsMultiplied => "can't multiply sequence by non-int of type 'list'"
  | hugeFactor => "cannot fit 'int' into an index-sized integer"
  | notDecimal => "%d format: a real number is required, not list"
  | notText => "'list' object has no attribute 'partition'"
  | notName => "unhashable type: 'list'"

namespace Datum

/-- Whether one datum comes before another, in a relation told by its sign. -/
def compare (relation : String) (holds : Int → Int → Bool) : Datum → Datum → Except Clash Bool
  | number a, number b => .ok (holds a b)
  | void, void => .ok false
  | a, b => .error (.order relation a b)

/-- Whether the first datum is greater. -/
def exceeds : Datum → Datum → Except Clash Bool := compare ">" fun a b ↦ decide (b < a)

/-- The number in a datum that is used as one; first of all it is asked whether it is below zero. -/
def asNumber : Datum → Except Clash Int
  | number n => .ok n
  | void => .error (.order "<" void (number 0))

/-- The sum of two data. Models `intcode.cpu.alu.add`. -/
def sum : Datum → Datum → Except Clash Datum
  | number a, number b => .ok (number (a + b))
  | void, void => .ok void
  | number _, void => .error .voidAdded
  | void, number _ => .error .numberAdded

/-- A void as often as a number says, which must be a position. -/
def repeated (n : Int) : Except Clash Datum :=
  if Outputs.fitsIndex n then .ok void else .error .hugeFactor

/-- The product of two data. Models `intcode.cpu.alu.multiply`. -/
def product : Datum → Datum → Except Clash Datum
  | number a, number b => .ok (number (a * b))
  | void, void => .error .voidsMultiplied
  | number n, void => repeated n
  | void, number n => repeated n

/-- One if the first datum is smaller, otherwise zero. Models `intcode.cpu.alu.less_than`. -/
def smaller (a b : Datum) : Except Clash Datum :=
  (compare "<" (fun a b ↦ decide (a < b)) a b).map fun holds ↦ number (if holds then 1 else 0)

/-- One if the data are equal, otherwise zero. Models `intcode.cpu.alu.equals`. -/
def same (a b : Datum) : Except Clash Datum := .ok (number (if a = b then 1 else 0))

/-- Data that are all numbers are the data of those numbers. -/
theorem numbers?_eq_some_iff {ds : List Datum} {ns : List Int} :
    numbers? ds = some ns ↔ ds = ns.map number := by
  induction ds generalizing ns with
  | nil => cases ns <;> simp [numbers?]
  | cons d ds ih =>
    cases d <;> cases ns <;> simp only [numbers?, Option.map_eq_some_iff, ih] <;> simp
    exact And.comm

/-- Whether a datum counts as true. -/
def nonzero (a : Datum) : Bool := decide (a ≠ number 0)

/-- Whether a datum counts as false. -/
def zero (a : Datum) : Bool := decide (a = number 0)

end Datum
end DecimalMachine
