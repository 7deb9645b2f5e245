import DecimalMachine.Fault
import DecimalMachine.Slice

/-!
# Memory

The program is the only memory of a machine: cells of unbounded integers, whose number is fixed once
the program is read. Every access is checked, and no address counts from the end.
-/

namespace DecimalMachine

/-- The cells of a program, packed; `toList` is the list of them. Models
`intcode.mem.memory.ProgramStore`; specification 4.1. -/
structure Memory where
  cells : Array Int
  deriving DecidableEq, Repr

namespace Memory

/-- The memory that holds the given cells. -/
def ofList (xs : List Int) : Memory := ⟨xs.toArray⟩

/-- The cells in order of their addresses. Models `intcode.mem.memory.ProgramStore.snapshot`. -/
def toList (m : Memory) : List Int := m.cells.toList

/-- The number of cells. -/
def size (m : Memory) : Nat := m.cells.size

/-- Whether an address has a cell. Models `intcode.mem.memory.ProgramStore.contains`. -/
def contains (m : Memory) (a : Int) : Bool := decide (0 ≤ a ∧ a < m.size)

/-- The cell at an address. -/
def get? (m : Memory) (a : Int) : Option Int := if 0 ≤ a then m.cells[a.toNat]? else none

/-- The memory with one cell overwritten; an address without a cell changes nothing. -/
def set (m : Memory) (a v : Int) : Memory :=
  if 0 ≤ a then ⟨m.cells.setIfInBounds a.toNat v⟩ else m

/-- The fault of an address without a cell. From `intcode.mem.memory.ProgramStore._check`. -/
def outside (m : Memory) (a : Int) : Fault := .outOfBounds a m.size

/-- The cell at an address, or the fault of having none. Models
`intcode.mem.memory.ProgramStore.read`. -/
def read (m : Memory) (a : Int) : Except Fault Int :=
  match m.get? a with
  | some v => .ok v
  | none => .error (m.outside a)

/-- The memory with the cell at an address overwritten, or the fault of having no such cell. Models
`intcode.mem.memory.ProgramStore.write`. -/
def write (m : Memory) (a v : Int) : Except Fault Memory :=
  if m.contains a then .ok (m.set a v) else .error (m.outside a)

/-- Consecutive cells. A positive count is checked, and the first address without a cell is named. No
other count is: it gives the window that ends where start and count add up to. Models
`intcode.mem.memory.ProgramStore.read_slice`. -/
def readWindow (m : Memory) (start count : Int) : Except Fault (List Int) :=
  if 0 < count ∧ ¬m.contains start then .error (m.outside start)
  else if 0 < count ∧ m.size < start + count then .error (m.outside m.size)
  else .ok (m.cells.extract (bound m.size start) (bound m.size (start + count))).toList

/-- How a memory shows itself. Models `intcode.mem.memory.ProgramStore.__repr__`. -/
def text (m : Memory) : String := "ProgramStore(len=" ++ toString m.size ++ ")"

/-- The list view of a memory built from a list. -/
@[simp] theorem toList_ofList (xs : List Int) : (ofList xs).toList = xs := by
  simp [ofList, toList]

/-- The list view has one element for each cell. -/
@[simp] theorem length_toList (m : Memory) : m.toList.length = m.size := by
  simp [toList, size]

/-- A memory built from a list has one cell for each element. -/
@[simp] theorem size_ofList (xs : List Int) : (ofList xs).size = xs.length := by
  rw [← length_toList, toList_ofList]

/-- Memories with the same cells are the same. -/
theorem ext_toList {m n : Memory} (h : m.toList = n.toList) : m = n := by
  cases m
  cases n
  exact congrArg Memory.mk (Array.toList_inj.mp h)

/-- The addresses with a cell are those from zero up to the size. -/
theorem contains_iff {m : Memory} {a : Int} : m.contains a = true ↔ 0 ≤ a ∧ a < m.size := by
  simp [contains]

/-- A cell is an element of the list view. -/
theorem get?_eq (m : Memory) (a : Int) :
    m.get? a = if 0 ≤ a then m.toList[a.toNat]? else none := by
  simp [get?, toList]

/-- An address has a cell exactly when it is contained. -/
theorem isSome_get? (m : Memory) (a : Int) : (m.get? a).isSome = m.contains a := by
  unfold get? contains size
  split
  · next h =>
    by_cases inside : a.toNat < m.cells.size
    · rw [Array.getElem?_eq_getElem inside, Option.isSome_some, eq_comm, decide_eq_true_eq]
      omega
    · rw [Array.getElem?_eq_none (by omega), Option.isSome_none, eq_comm, decide_eq_false_iff_not]
      omega
  · next h =>
    rw [Option.isSome_none, eq_comm, decide_eq_false_iff_not]
    omega

/-- Overwriting a cell replaces it in the list view. -/
theorem toList_set {m : Memory} {a : Int} (v : Int) (h : 0 ≤ a) :
    (m.set a v).toList = m.toList.set a.toNat v := by
  simp [set, toList, h]

/-- Overwriting keeps the number of cells. -/
@[simp] theorem size_set (m : Memory) (a v : Int) : (m.set a v).size = m.size := by
  unfold set size
  split <;> simp

/-- Reading succeeds exactly with the cell. -/
theorem read_eq_ok_iff {m : Memory} {a v : Int} : m.read a = .ok v ↔ m.get? a = some v := by
  unfold read
  split
  · next h => simp [h]
  · next h => simp [h]

/-- Reading fails exactly outside the memory, and names the address. -/
theorem read_eq_error_iff {m : Memory} {a : Int} {f : Fault} :
    m.read a = .error f ↔ m.contains a = false ∧ f = m.outside a := by
  rw [← isSome_get?]
  unfold read
  split
  · next h => simp [h]
  · next h => simp [h, eq_comm]

/-- Writing succeeds exactly inside the memory. -/
theorem write_eq_ok_iff {m n : Memory} {a v : Int} :
    m.write a v = .ok n ↔ m.contains a = true ∧ n = m.set a v := by
  unfold write
  split
  · next h => simp [h, eq_comm]
  · next h => simp [h]

/-- The cells of a slice are a window of the list view. -/
theorem toList_extract (m : Memory) (start stop : Int) :
    (m.cells.extract (bound m.size start) (bound m.size stop)).toList =
      window start stop m.toList := by
  rw [window, length_toList, Array.toList_extract, List.extract_eq_take_drop, List.drop_take]
  rfl

end Memory
end DecimalMachine
