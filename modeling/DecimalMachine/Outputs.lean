import DecimalMachine.Slice
import DecimalMachine.Text.Decimal

/-!
# Outputs

The values a machine has put out, oldest first. They only grow at the end; every question about them
is answered from the values put out so far.
-/

namespace DecimalMachine

open Text

/-- The values put out so far, packed; `toList` is the list of them. Models
`intcode.machine.OutputLog`; specification 6. -/
structure Outputs where
  values : Array Int
  deriving DecidableEq, Repr

namespace Outputs

/-- Nothing put out yet. -/
def empty : Outputs := ⟨#[]⟩

/-- The outputs in the given order. -/
def ofList (xs : List Int) : Outputs := ⟨xs.toArray⟩

/-- The outputs, oldest first. -/
def toList (o : Outputs) : List Int := o.values.toList

/-- The number of outputs. -/
def size (o : Outputs) : Nat := o.values.size

/-- One more output. -/
def push (o : Outputs) (v : Int) : Outputs := ⟨o.values.push v⟩

/-- The latest output, if there is one. Models `intcode.machine.OutputLog.last`. -/
def last? (o : Outputs) : Option Int := o.values.back?

/-- How outputs show themselves. Models `intcode.machine.OutputLog.__repr__`. -/
def text (o : Outputs) : String :=
  "OutputLog([" ++ ", ".intercalate (o.toList.map decimal) ++ "])"

/-- Why a question has no answer. -/
inductive QueryFault where
  /-- A position outside the outputs. -/
  | outOfRange
  /-- A position that no list could have. -/
  | hugeIndex
  /-- A slice that does not move. -/
  | zeroStep
  /-- A value that does not occur in the window searched. -/
  | absent
  deriving DecidableEq, Repr

/-- How a question without an answer is reported. -/
def QueryFault.message : QueryFault → String
  | outOfRange => "list index out of range"
  | hugeIndex => "cannot fit 'int' into an index-sized integer"
  | zeroStep => "slice step cannot be zero"
  | absent => ""

/-- Positions are signed words of sixty-four bits; others are too large even to be looked for. -/
def fitsIndex (i : Int) : Bool :=
  decide (-0x8000000000000000 ≤ i ∧ i < 0x8000000000000000)

/-- The output at a position, counted from the end if it is negative. Models
`intcode.machine.OutputLog.__getitem__` at an integer. -/
def get (o : Outputs) (i : Int) : Except QueryFault Int :=
  if ¬fitsIndex i then .error .hugeIndex
  else
    let k := fromStart o.size i
    match if 0 ≤ k then o.values[k.toNat]? else none with
    | some v => .ok v
    | none => .error .outOfRange

/-- The outputs in a slice. Models `intcode.machine.OutputLog.__getitem__` at a slice. -/
def slice (o : Outputs) (s : Slice) : Except QueryFault (List Int) :=
  match s.select? o.toList with
  | some xs => .ok xs
  | none => .error .zeroStep

/-- The first position of a value from a start on and before a stop, both counted from the end if they
are negative. -/
def index (o : Outputs) (v start : Int) (stop : Option Int) : Except QueryFault Nat :=
  let low := max (fromStart o.size start) 0
  let before (i : Nat) : Bool := stop.all fun s ↦ decide (i < fromStart o.size s)
  match o.toList.zipIdx.find? fun p ↦ decide (low ≤ p.2) && before p.2 && p.1 == v with
  | some p => .ok p.2
  | none => .error .absent

/-- A question about outputs. -/
inductive Query where
  | length
  | last
  | text
  | values
  | reversed
  | get (i : Int)
  | slice (s : Slice)
  | contains (v : Int)
  | count (v : Int)
  | index (v start : Int) (stop : Option Int)
  /-- Whether the outputs are the given values; what is no sequence of values is never equal. -/
  | equals (other : Option (List Int))
  deriving DecidableEq, Repr

/-- An answer to a question about outputs. -/
inductive Answer where
  | number (n : Int)
  | perhaps (n : Option Int)
  | text (s : String)
  | values (xs : List Int)
  | truth (b : Bool)
  deriving DecidableEq, Repr

/-- The answer to a question, from the outputs so far. -/
def ask (o : Outputs) : Query → Except QueryFault Answer
  | .length => .ok (.number o.size)
  | .last => .ok (.perhaps o.last?)
  | .text => .ok (.text o.text)
  | .values => .ok (.values o.toList)
  | .reversed => .ok (.values o.toList.reverse)
  | .get i => (o.get i).map .number
  | .slice s => (o.slice s).map .values
  | .contains v => .ok (.truth (o.toList.contains v))
  | .count v => .ok (.number (o.toList.count v))
  | .index v start stop => (o.index v start stop).map fun n ↦ .number n
  | .equals other => .ok (.truth (other.any (o.toList == ·)))

/-- The list view of outputs built from a list. -/
@[simp] theorem toList_ofList (xs : List Int) : (ofList xs).toList = xs := by
  simp [ofList, toList]

/-- One more output stands at the end of the list view. -/
@[simp] theorem toList_push (o : Outputs) (v : Int) : (o.push v).toList = o.toList ++ [v] := by
  simp [push, toList]

/-- The list view has one element for each output. -/
@[simp] theorem length_toList (o : Outputs) : o.toList.length = o.size := by
  simp [toList, size]

/-- Outputs with the same values are the same. -/
theorem ext_toList {o p : Outputs} (h : o.toList = p.toList) : o = p := by
  cases o
  cases p
  exact congrArg Outputs.mk (Array.toList_inj.mp h)

/-- The latest output is the last element of the list view. -/
theorem last?_eq (o : Outputs) : o.last? = o.toList.getLast? := by
  simp [last?, toList, Array.getLast?_toList]

end Outputs
end DecimalMachine
