import DecimalMachine.Listing
import DecimalMachine.Proofs.Packing

/-!
# The lines of a listing

A listing goes through a memory without a gap: every line shows the cells at its address, and the next
line begins where they end. So every cell is shown, and shown once. What a line says is what decoding
at its address says, be it an instruction or a fault.
-/

namespace DecimalMachine

open Text

namespace Line

/-- What a line of the listing of a memory shows and says. -/
structure Tells (m : Memory) (l : Line) : Prop where
  /-- The cells of the line are those at its address. -/
  held : m.Holds l.address l.cells
  /-- There is at least one of them, and no more than an instruction can have. -/
  width : 1 ≤ l.width ∧ l.width ≤ 4
  /-- A line of data shows one cell, of which nothing can be decoded. -/
  data : l.mnemonic = "DATA" ∧ l.width = 1 ↔ ∃ f, Instruction.decode m l.address = .error f
  /-- It is marked if what is missing are cells. -/
  marked : l.comment = truncated ↔ ∃ a n, Instruction.decode m l.address = .error (.outOfBounds a n)
  /-- The line of an instruction says which one it is. -/
  instruction : ∀ i, Instruction.decode m l.address = .ok i → l = ofInstruction i
  /-- The line of anything else repeats its cell, with no comment but the mark. -/
  other : ∀ f, Instruction.decode m l.address = .error f →
    ∃ w, l = ofData l.address w l.comment ∧ (l.comment = truncated ∨ l.comment = "")

/-- An address is one of those whose cells the line shows. -/
def Shows (l : Line) (a : Int) : Prop := l.address ≤ a ∧ a < l.address + l.width

end Line

namespace Listing

/-- The first line stands at an address, and every other where the one before ends. -/
def Seamless : Int → List Line → Prop
  | _, [] => True
  | a, l :: ls => l.address = a ∧ Seamless (a + l.width) ls

end Listing

/-! ### Cells at an address -/

namespace Memory

variable {m : Memory}

private theorem Holds.drop_eq {a : Nat} {xs : List Int} (held : m.Holds a xs) :
    m.toList.drop a = xs ++ m.toList.drop (a + xs.length) := by
  obtain ⟨before, after, cells, place⟩ := held
  obtain rfl : a = before.length := by omega
  rw [cells, List.drop_left, ← List.append_assoc, ← List.length_append, List.drop_left]

private theorem holds_singleton {a w : Int} (cell : m.get? a = some w) : m.Holds a [w] := by
  have inside := (contains_iff.mp (contains_of_get? cell)).2
  rw [holds_cons_iff]
  exact ⟨cell, by simpa using inside, rfl⟩

/-- The cell of an address below the size. -/
theorem get?_natCast {a : Nat} (inside : a < m.cells.size) : m.get? a = some m.cells[a] := by
  simp [get?, inside]

end Memory

/-! ### One line -/

namespace Operation

private theorem arity_le (o : Operation) : o.arity ≤ 3 := by
  cases o <;> decide

/-- No operation is called like a line of data. -/
theorem mnemonic_ne_data (o : Operation) : o.mnemonic ≠ "DATA" := by
  cases o <;> decide

end Operation

namespace Line

variable {m : Memory} {a w : Int}

private theorem ofCell_of_ok {i : Instruction} (w : Int)
    (decoded : Instruction.decode m a = .ok i) :
    ofCell m a w = ofInstruction i := by
  simp only [ofCell, decoded]

private theorem ofCell_of_error {f : Fault} (w : Int) (failed : Instruction.decode m a = .error f) :
    ∃ comment, ofCell m a w = ofData a w comment ∧
      (comment = truncated ∧ (∃ b n, f = .outOfBounds b n) ∨
        comment = "" ∧ ∀ b n, f ≠ .outOfBounds b n) := by
  unfold ofCell
  rw [failed]
  cases f with
  | outOfBounds b n => exact ⟨_, rfl, .inl ⟨rfl, b, n, rfl⟩⟩
  | _ => exact ⟨_, rfl, .inr ⟨rfl, by simp⟩⟩

private theorem address_ofCell (m : Memory) (a w : Int) : (ofCell m a w).address = a := by
  cases decoded : Instruction.decode m a with
  | ok i =>
    rw [ofCell_of_ok w decoded]
    exact (Instruction.decode_eq_ok_iff.mp decoded).1
  | error f =>
    obtain ⟨comment, line, -⟩ := ofCell_of_error w decoded
    rw [line]
    rfl

/-- The line of an instruction tells of its memory. -/
theorem tells_ofInstruction {i : Instruction} (decoded : Instruction.decode m a = .ok i) :
    (ofInstruction i).Tells m := by
  obtain ⟨rfl, stands⟩ := Instruction.decode_eq_ok_iff.mp decoded
  have arity := i.operation.arity_le
  have width : (ofInstruction i).width = i.operation.arity + 1 := by
    rw [Line.width, ofInstruction, List.length_cons, stands.complete]
  refine ⟨stands.held, by omega, ?_, ?_, fun j hj ↦ ?_, fun f hf ↦ ?_⟩
  · simp [ofInstruction, decoded, i.operation.mnemonic_ne_data]
  · simp [ofInstruction, decoded, truncated]
  · rw [Except.ok.inj (decoded.symm.trans hj)]
  · cases decoded.symm.trans hf

private theorem tells_ofData {f : Fault} {comment : String} (cell : m.get? a = some w)
    (failed : Instruction.decode m a = .error f)
    (mark : comment = truncated ∧ (∃ b n, f = .outOfBounds b n) ∨
      comment = "" ∧ ∀ b n, f ≠ .outOfBounds b n) :
    (ofData a w comment).Tells m := by
  refine ⟨Memory.holds_singleton cell, by simp [Line.width, ofData], ?_, ?_, fun i hi ↦ ?_,
    fun g _ ↦ ⟨w, rfl, mark.imp And.left And.left⟩⟩
  · simp [ofData, failed, Line.width]
  · rcases mark with ⟨rfl, b, n, rfl⟩ | ⟨rfl, present⟩
    · simp [ofData, failed]
    · simp [ofData, failed, truncated, present]
  · cases failed.symm.trans hi

private theorem tells_ofCell (cell : m.get? a = some w) : (ofCell m a w).Tells m := by
  cases decoded : Instruction.decode m a with
  | ok i =>
    rw [ofCell_of_ok w decoded]
    exact tells_ofInstruction decoded
  | error f =>
    obtain ⟨comment, line, mark⟩ := ofCell_of_error w decoded
    rw [line]
    exact tells_ofData cell decoded mark

/-- A line stands at an address that has a cell. -/
theorem Tells.inside {l : Line} (tells : l.Tells m) : m.contains l.address = true := by
  obtain ⟨before, after, cells, place⟩ := tells.held
  have size := congrArg List.length cells
  have width := tells.width.1
  rw [Line.width] at width
  simp only [Memory.length_toList, List.length_append] at size
  rw [Memory.contains_iff]
  omega

private theorem Tells.near_end {l : Line} (tells : l.Tells m) (marked : l.comment = truncated) :
    m.size ≤ l.address + 3 := by
  obtain ⟨b, n, failed⟩ := tells.marked.mp marked
  rcases Instruction.decode_eq_error_iff.mp failed with
    ⟨outside, -⟩ | ⟨w, -, ⟨-, unknown⟩ | ⟨-, -, unknown⟩ | ⟨o, -, -, short, -⟩⟩
  · rw [tells.inside] at outside
    cases outside
  · cases unknown
  · cases unknown
  · have := o.arity_le
    omega

end Line

/-! ### All lines -/

namespace Listing

variable {m : Memory}

private theorem linesFrom_of_lt {a : Nat} (inside : a < m.cells.size) :
    ∃ l : Line, l.address = (a : Int) ∧ l.Tells m ∧
      linesFrom m a = l :: linesFrom m (a + l.width) := by
  refine ⟨Line.ofCell m a m.cells[a], Line.address_ofCell _ _ _,
    Line.tells_ofCell (Memory.get?_natCast inside), ?_⟩
  rw [linesFrom, dif_pos inside]

/-- From an address behind the last cell on there is nothing to show. -/
theorem linesFrom_of_le {a : Nat} (outside : m.cells.size ≤ a) : linesFrom m a = [] := by
  rw [linesFrom, dif_neg (Nat.not_lt.mpr outside)]

/-- What holds behind the last cell, and before a line if it holds behind it, holds of all lines from an
address on. -/
theorem linesFrom_induction {P : Nat → List Line → Prop} (stop : ∀ a, m.size ≤ a → P a [])
    (line : ∀ (a : Nat) (l : Line) (ls : List Line), l.address = (a : Int) → l.Tells m →
      P (a + l.width) ls → P a (l :: ls))
    (a : Nat) : P a (linesFrom m a) := by
  -- Every line has a cell, so that less of the memory is left behind it.
  by_cases inside : a < m.cells.size
  · obtain ⟨l, address, tells, lines⟩ := linesFrom_of_lt inside
    have := tells.width.1
    rw [lines]
    exact line a l _ address tells (linesFrom_induction stop line (a + l.width))
  · rw [linesFrom_of_le (Nat.not_lt.mp inside)]
    exact stop a (Nat.not_lt.mp inside)
termination_by m.cells.size - a

/-- The cells of the lines from an address on are the cells from there on. -/
theorem flatMap_cells_linesFrom (m : Memory) (a : Nat) :
    (linesFrom m a).flatMap Line.cells = m.toList.drop a := by
  refine linesFrom_induction (P := fun a ls ↦ ls.flatMap Line.cells = m.toList.drop a)
    (fun a outside ↦ ?_) (fun a l ls address tells behind ↦ ?_) a
  · rw [List.drop_eq_nil_of_le (by rwa [Memory.length_toList]), List.flatMap_nil]
  · have held := tells.held
    rw [address] at held
    rw [List.flatMap_cons, behind, held.drop_eq, Line.width]

/-- From an address on, each line begins where the one before ends. -/
theorem seamless_linesFrom (m : Memory) (a : Nat) : Seamless a (linesFrom m a) := by
  refine linesFrom_induction (P := fun a ls ↦ Seamless a ls) (fun _ _ ↦ trivial)
    (fun a l ls address _ behind ↦ ⟨address, ?_⟩) a
  rwa [← Int.natCast_add]

/-- Every line from an address on tells of its memory. -/
theorem tells_of_mem_linesFrom {a : Nat} {l : Line} (h : l ∈ linesFrom m a) : l.Tells m := by
  have all : ∀ l ∈ linesFrom m a, l.Tells m :=
    linesFrom_induction (P := fun _ ls ↦ ∀ l ∈ ls, l.Tells m) (fun _ _ _ hl ↦ by cases hl)
      (fun _ _ _ _ tells behind ↦ List.forall_mem_cons.mpr ⟨tells, behind⟩) a
  exact all l h

/-! ### Every cell once -/

private theorem Seamless.le_address {a : Int} {ls : List Line} (seamless : Seamless a ls) {l : Line}
    (h : l ∈ ls) : a ≤ l.address := by
  induction ls generalizing a with
  | nil => cases h
  | cons first ls ih =>
    obtain ⟨rfl, behind⟩ := seamless
    rcases List.mem_cons.mp h with rfl | h
    · exact Int.le_refl _
    · have := ih behind h
      omega

/-- An address is in one line, and in no other. -/
theorem Seamless.shown_once {a b : Int} {ls : List Line} (seamless : Seamless a ls) (first : a ≤ b)
    (last : b < a + (ls.map Line.width).sum) :
    ∃! k : Nat, ∃ l : Line, ls[k]? = some l ∧ l.Shows b := by
  induction ls generalizing a with
  | nil =>
    rw [List.map_nil, List.sum_nil] at last
    omega
  | cons l ls ih =>
    obtain ⟨rfl, behind⟩ := seamless
    by_cases here : b < l.address + l.width
    · refine ⟨0, ⟨l, rfl, first, here⟩, ?_⟩
      rintro (_ | k) ⟨other, there, shows⟩
      · rfl
      · have := behind.le_address (List.mem_of_getElem? there)
        have := shows.1
        omega
    · rw [List.map_cons, List.sum_cons] at last
      obtain ⟨k, there, unique⟩ := ih behind (by omega) (by omega)
      refine ⟨k + 1, there, ?_⟩
      rintro (_ | j) ⟨other, place, shows⟩
      · obtain rfl := Option.some.inj place
        exact absurd shows.2 here
      · rw [unique j ⟨other, place, shows⟩]

/-- The widths of the lines add up to the number of cells. -/
theorem sum_width_lines (m : Memory) : ((lines m).map Line.width).sum = m.size := by
  have cells := congrArg List.length (flatMap_cells_linesFrom m 0)
  rwa [List.length_flatMap, List.drop_zero, Memory.length_toList] at cells

/-- The lines of the listing of any cells show exactly these cells in order. They begin at address zero,
each begins where the one before ends, and each has one to four cells and says what decoding there
says; so every cell is in one line and in no other, and only a line among the last three cells is marked.
-/
theorem lines_tile (cells : List Int) :
    (lines (Memory.ofList cells)).flatMap Line.cells = cells ∧
      Seamless 0 (lines (Memory.ofList cells)) ∧
      (∀ l ∈ lines (Memory.ofList cells), l.Tells (Memory.ofList cells)) ∧
      (∀ a : Nat, a < cells.length →
        ∃! k : Nat, ∃ l : Line, (lines (Memory.ofList cells))[k]? = some l ∧ l.Shows a) ∧
      ∀ l ∈ lines (Memory.ofList cells), l.comment = Line.truncated →
        cells.length ≤ l.address + 3 ∧ l.address < cells.length := by
  have size := Memory.size_ofList cells
  refine ⟨?_, seamless_linesFrom _ 0, fun l ↦ tells_of_mem_linesFrom, fun a inside ↦ ?_,
    fun l hl marked ↦ ?_⟩
  · rw [lines, flatMap_cells_linesFrom, Memory.toList_ofList, List.drop_zero]
  · refine (seamless_linesFrom _ 0).shown_once (Int.natCast_nonneg a) ?_
    have := sum_width_lines (Memory.ofList cells)
    rw [lines] at this
    omega
  · have tells := tells_of_mem_linesFrom hl
    have near := tells.near_end marked
    have inside := (Memory.contains_iff.mp tells.inside).2
    omega

/-- A listing with an instruction, a cell of data, and a word whose operands are missing. -/
theorem lines_tile_cut_short :
    Line.ofData 5 1 Line.truncated ∈ lines (Memory.ofList [1002, 4, 3, 4, 33, 1]) ∧
      (6 : Int) ≤ 5 + 3 ∧
      ∃! k : Nat, ∃ l : Line,
        (lines (Memory.ofList [1002, 4, 3, 4, 33, 1]))[k]? = some l ∧ l.Shows 3 := by
  obtain ⟨-, -, -, once, marked⟩ := lines_tile [1002, 4, 3, 4, 33, 1]
  have there : Line.ofData 5 1 Line.truncated ∈ lines (Memory.ofList [1002, 4, 3, 4, 33, 1]) := by
    decide +kernel
  exact ⟨there, (marked _ there rfl).1, once 3 (by decide)⟩

end Listing
end DecimalMachine
