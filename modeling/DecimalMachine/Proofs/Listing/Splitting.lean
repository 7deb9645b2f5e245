import DecimalMachine.Proofs.Listing.Tiling

/-!
# Splitting a listing

Whether a word is listed as an instruction depends on how many cells there are behind it, up to the end
of the memory. So a memory that is cut in two may be listed differently, but not if it is cut where a
line begins: the lines in front of the cut have all their cells there, and those behind it never look
back. A line that the cut goes through is listed differently in any case.
-/

namespace DecimalMachine

namespace Line

/-- The line with its address counted from further on. -/
def moved (k : Int) (l : Line) : Line := { l with address := l.address + k }

/-- The line of a word at an address with the given cells behind it. -/
def ofCells (address word : Int) (behind : List Int) : Line :=
  if word < 0 then ofData address word ""
  else
    match Operation.ofCode? (word % 100) with
    | none => ofData address word ""
    | some o =>
      if behind.length < o.arity then ofData address word truncated
      else ofInstruction ⟨address, word, o, behind.take o.arity, Mode.ofWord word o.arity⟩

private theorem cells_ofCells (a w : Int) (behind : List Int) :
    ∃ n, n ≤ behind.length ∧ (ofCells a w behind).cells = w :: behind.take n := by
  unfold ofCells
  split
  · exact ⟨0, Nat.zero_le _, rfl⟩
  · split
    · exact ⟨0, Nat.zero_le _, rfl⟩
    · next o _ =>
      split
      · exact ⟨0, Nat.zero_le _, rfl⟩
      · next enough => exact ⟨o.arity, Nat.not_lt.mp enough, rfl⟩

end Line

namespace Listing

/-- The lines of cells the first of which has the given address. -/
def sweep (address : Int) : List Int → List Line
  | [] => []
  | w :: behind =>
    let l := Line.ofCells address w behind
    l :: sweep (address + l.width) (behind.drop (l.width - 1))
termination_by cells => cells.length
decreasing_by
  rw [List.length_drop, List.length_cons]
  omega

end Listing

namespace Line

/-! ### One line and the cells behind it -/

private theorem width_ofCells (a w : Int) (behind : List Int) :
    1 ≤ (ofCells a w behind).width ∧ (ofCells a w behind).width ≤ behind.length + 1 := by
  obtain ⟨n, few, cells⟩ := cells_ofCells a w behind
  rw [width, cells, List.length_cons, List.length_take]
  omega

private theorem address_ofCells (a w : Int) (behind : List Int) :
    (ofCells a w behind).address = a := by
  unfold ofCells
  split
  · rfl
  · split
    · rfl
    · split <;> rfl

private theorem ofCells_add (k a w : Int) (behind : List Int) :
    ofCells (a + k) w behind = (ofCells a w behind).moved k := by
  unfold ofCells
  split
  · rfl
  · split
    · rfl
    · split <;> rfl

private theorem ofCells_append {a w : Int} {behind : List Int} (more : List Int)
    (ends : (ofCells a w (behind ++ more)).width ≤ behind.length + 1) :
    ofCells a w (behind ++ more) = ofCells a w behind := by
  unfold ofCells at ends ⊢
  split
  · rfl
  · next nonneg =>
    rw [if_neg nonneg] at ends
    split
    · rfl
    · next o named =>
      simp only [named] at ends
      by_cases short : (behind ++ more).length < o.arity
      · have shorter : behind.length < o.arity := by
          rw [List.length_append] at short
          omega
        rw [if_pos short, if_pos shorter]
      · rw [if_neg short, width, ofInstruction, List.length_cons, List.length_take] at ends
        have enough : o.arity ≤ behind.length := by omega
        rw [if_neg short, if_neg (Nat.not_lt.mpr enough), List.take_append_of_le_length enough]

private theorem ofCell_eq_ofCells {m : Memory} {a : Nat} (inside : a < m.cells.size) :
    ofCell m a m.cells[a] = ofCells a m.cells[a] (m.toList.drop (a + 1)) := by
  have size : (m.toList.drop (a + 1)).length = m.cells.size - (a + 1) := by
    rw [List.length_drop, Memory.length_toList, Memory.size]
  unfold ofCell ofCells
  rw [Instruction.decode_eq (Memory.get?_natCast inside)]
  by_cases negative : m.cells[a] < 0
  · rw [if_pos negative, if_pos negative]
  · rw [if_neg negative, if_neg negative]
    cases Operation.ofCode? (m.cells[a] % 100) with
    | none => rfl
    | some o =>
      have short : (0 < o.arity ∧ (m.size : Int) ≤ a + o.arity) ↔
          (m.toList.drop (a + 1)).length < o.arity := by
        rw [size, Memory.size]
        omega
      simp only [short]
      by_cases cut : (m.toList.drop (a + 1)).length < o.arity
      · rw [if_pos cut, if_pos cut]
      · rw [if_neg cut, if_neg cut, Int.toNat_natCast]

end Line

namespace Listing

/-! ### The sweep -/

/-- The lines of a memory from an address on are the sweep of its cells from there on. -/
theorem linesFrom_eq_sweep (m : Memory) (a : Nat) :
    linesFrom m a = sweep a (m.toList.drop a) := by
  by_cases inside : a < m.cells.size
  · have cells : m.toList.drop a = m.cells[a] :: m.toList.drop (a + 1) :=
      List.drop_eq_getElem_cons (by rwa [Memory.length_toList])
    have line := Line.ofCell_eq_ofCells inside
    have width := (Line.width_ofCells a m.cells[a] (m.toList.drop (a + 1))).1
    rw [← line] at width
    have next : a + 1 + ((Line.ofCell m a m.cells[a]).width - 1) =
        a + (Line.ofCell m a m.cells[a]).width := by omega
    rw [linesFrom, dif_pos inside, cells, sweep, ← line, List.drop_drop, next]
    simp only
    rw [linesFrom_eq_sweep m (a + (Line.ofCell m a m.cells[a]).width), Int.natCast_add]
  · rw [linesFrom_of_le (Nat.not_lt.mp inside),
      List.drop_eq_nil_of_le (by rw [Memory.length_toList]; exact Nat.not_lt.mp inside), sweep]
termination_by m.cells.size - a

private theorem lines_ofList (cells : List Int) : lines (Memory.ofList cells) = sweep 0 cells := by
  rw [lines, linesFrom_eq_sweep, Memory.toList_ofList, List.drop_zero, Int.natCast_zero]

private theorem sweep_add (k a : Int) (cells : List Int) :
    sweep (a + k) cells = (sweep a cells).map (Line.moved k) := by
  induction a, cells using sweep.induct with
  | case1 a => rw [sweep, sweep, List.map_nil]
  | case2 a w behind l ih =>
    have line : Line.ofCells (a + k) w behind = l.moved k := Line.ofCells_add k a w behind
    have width : (l.moved k).width = l.width := rfl
    have next : a + k + l.width = a + l.width + k := by omega
    rw [sweep, sweep, List.map_cons, ← ih]
    simp only [line, width, next]
    rfl

private theorem le_address_of_mem_sweep {a : Int} {cells : List Int} {l : Line}
    (h : l ∈ sweep a cells) :
    a ≤ l.address := by
  induction a, cells using sweep.induct with
  | case1 a =>
    rw [sweep] at h
    cases h
  | case2 a w behind first ih =>
    rw [sweep] at h
    rcases List.mem_cons.mp h with rfl | later
    · rw [Line.address_ofCells]
    · have := ih later
      omega

private theorem exists_mem_sweep {cells : List Int} (a : Int) (nonempty : cells ≠ []) :
    ∃ l ∈ sweep a cells, l.address = a := by
  cases cells with
  | nil => exact absurd rfl nonempty
  | cons w behind =>
    rw [sweep]
    exact ⟨_, List.mem_cons_self, Line.address_ofCells a w behind⟩

/-- A sweep that comes by the end of the cells in front is a sweep of these and one of the cells behind
them. -/
theorem sweep_append {a : Int} {front : List Int} (more : List Int)
    (cut : ∃ l ∈ sweep a (front ++ more), l.address = a + front.length) :
    sweep a (front ++ more) = sweep a front ++ sweep (a + front.length) more := by
  induction a, front using sweep.induct with
  | case1 a =>
    rw [List.nil_append, List.length_nil, Int.natCast_zero, Int.add_zero, sweep, List.nil_append]
  | case2 a w behind l ih =>
    obtain ⟨begins, there, address⟩ := cut
    rw [List.cons_append, sweep] at there
    rw [List.length_cons] at address
    -- The line at the cut is not the first one, which therefore ends before it.
    have later : begins ∈ sweep (a + (Line.ofCells a w (behind ++ more)).width)
        ((behind ++ more).drop ((Line.ofCells a w (behind ++ more)).width - 1)) := by
      rcases List.mem_cons.mp there with rfl | later
      · rw [Line.address_ofCells] at address
        omega
      · exact later
    have ends : (Line.ofCells a w (behind ++ more)).width ≤ behind.length + 1 := by
      have := le_address_of_mem_sweep later
      omega
    have line : Line.ofCells a w (behind ++ more) = l := Line.ofCells_append more ends
    rw [line] at later ends
    have some_cell : 1 ≤ l.width := (Line.width_ofCells a w behind).1
    have rest : (behind ++ more).drop (l.width - 1) = behind.drop (l.width - 1) ++ more :=
      List.drop_append_of_le_length (by omega)
    have last : a + l.width + ((behind.drop (l.width - 1)).length : Int) =
        a + (behind.length + 1 : Nat) := by
      rw [List.length_drop]
      omega
    rw [rest] at later
    have split := ih ⟨begins, later, by rw [address, last]⟩
    rw [List.cons_append, sweep, sweep, List.length_cons, List.cons_append]
    simp only [line]
    rw [rest, split, last]

/-- Cells are listed as those in front of a cut and then, further on, those behind it exactly if a line
begins at the cut, or nothing is behind it. -/
theorem lines_append_iff (front more : List Int) :
    lines (Memory.ofList (front ++ more)) =
        lines (Memory.ofList front) ++
          (lines (Memory.ofList more)).map (Line.moved front.length) ↔
      more = [] ∨ ∃ l ∈ lines (Memory.ofList (front ++ more)), l.address = front.length := by
  rw [lines_ofList, lines_ofList, lines_ofList, ← sweep_add]
  constructor
  · intro split
    by_cases nothing : more = []
    · exact .inl nothing
    · obtain ⟨l, there, address⟩ := exists_mem_sweep (0 + front.length) nothing
      refine .inr ⟨l, ?_, by rw [address, Int.zero_add]⟩
      rw [split]
      exact List.mem_append_right _ there
  · rintro (rfl | ⟨l, there, address⟩)
    · rw [List.append_nil, sweep, List.append_nil]
    · exact sweep_append more ⟨l, there, by rw [address, Int.zero_add]⟩

/-- Behind a product and a cell of data the listing begins anew, and lacks the same operands; in the
middle of the product it does not. -/
theorem lines_append_iff_product :
    lines (Memory.ofList ([1002, 4, 3, 4, 33] ++ [104, 7, 1])) =
        lines (Memory.ofList [1002, 4, 3, 4, 33]) ++
          (lines (Memory.ofList [104, 7, 1])).map (Line.moved 5) ∧
      lines (Memory.ofList ([1002, 4] ++ [3, 4, 33])) ≠
        lines (Memory.ofList [1002, 4]) ++
          (lines (Memory.ofList [3, 4, 33])).map (Line.moved 2) := by
  constructor
  · apply (lines_append_iff [1002, 4, 3, 4, 33] [104, 7, 1]).mpr
    exact .inr ⟨⟨5, [104, 7], "OUT", "#7", ""⟩, by decide +kernel, rfl⟩
  · intro split
    have cut := (lines_append_iff [1002, 4] [3, 4, 33]).mp split
    revert cut
    decide +kernel

end Listing
end DecimalMachine
