import DecimalMachine.Memory

/-!
# Windows

Consecutive cells are given as if they were read one by one, and a window that lacks a cell has the
fault of the first one missing. That holds of every window with a count not below zero. Other windows
are not checked, and should be empty; but one that ends before the first cell has its end counted from
the last, and gives cells that nobody asked for if the count does not exceed the size.
-/

namespace DecimalMachine.Memory

/-- What comes of reading so many cells one by one: all of them in order, or the fault of the first
one that cannot be read. -/
def Reads (m : Memory) (start count : Int) : Except Fault (List Int) → Prop
  | .ok xs => xs.length = count.toNat ∧
      ∀ (k : Nat) (v : Int), xs[k]? = some v → m.read (start + k) = .ok v
  | .error f => ∃ k : Nat, k < count.toNat ∧ m.read (start + k) = .error f ∧
      ∀ j : Nat, j < k → ∃ v, m.read (start + j) = .ok v

/-- The window ends before the first cell, and there is something to be found at its end if that is
counted from the last cell. -/
structure Wraps (m : Memory) (start count : Int) : Prop where
  front : 0 ≤ start
  below : start + count < 0
  within : 0 < m.size + count

/-- Whether a window wraps is decided by its numbers. -/
instance (m : Memory) (start count : Int) : Decidable (m.Wraps start count) :=
  decidable_of_iff (0 ≤ start ∧ start + count < 0 ∧ 0 < m.size + count)
    ⟨fun ⟨front, below, within⟩ ↦ ⟨front, below, within⟩,
      fun ⟨front, below, within⟩ ↦ ⟨front, below, within⟩⟩

variable {m : Memory} {start count : Int}

private theorem exists_read_of_contains {a : Int} (inside : m.contains a = true) :
    ∃ v, m.read a = .ok v := by
  cases there : m.read a with
  | ok v => exact ⟨v, rfl⟩
  | error f =>
    rw [(read_eq_error_iff.mp there).1] at inside
    cases inside

private theorem toList_extract_eq (m : Memory) (low high : Nat) :
    (m.cells.extract low high).toList = (m.toList.drop low).take (high - low) := by
  rw [Array.toList_extract, List.extract_eq_take_drop]
  rfl

private theorem read_of_getElem?_drop {k : Nat} {v : Int} {n : Nat} (front : 0 ≤ start)
    (there : ((m.toList.drop start.toNat).take n)[k]? = some v) : m.read (start + k) = .ok v := by
  have below := (List.getElem?_eq_some_iff.mp there).1
  have place : (start + k).toNat = start.toNat + k := by omega
  rw [List.length_take] at below
  rw [List.getElem?_take_of_lt (by omega), List.getElem?_drop] at there
  rw [read_eq_ok_iff, get?_eq, if_pos (by omega), place, there]

/-- A window with a positive count is read cell by cell. -/
theorem reads_readWindow_of_pos (positive : 0 < count) :
    m.Reads start count (m.readWindow start count) := by
  unfold readWindow
  split
  · next missing =>
    -- The first cell is missing already.
    refine ⟨0, by omega, ?_, by omega⟩
    rw [read_eq_error_iff, Int.natCast_zero, Int.add_zero]
    exact ⟨Bool.eq_false_iff.mpr missing.2, rfl⟩
  · next present =>
    have inside : m.contains start = true := by
      apply Decidable.byContradiction
      intro outside
      exact present ⟨positive, outside⟩
    obtain ⟨front, below⟩ := contains_iff.mp inside
    split
    · next short =>
      -- The cells up to the last one are there, and the one behind it is missing.
      have last : start + (m.size - start.toNat : Nat) = m.size := by omega
      refine ⟨m.size - start.toNat, by omega, ?_, ?_⟩
      · rw [last, read_eq_error_iff, ← Bool.not_eq_true, contains_iff]
        exact ⟨by omega, rfl⟩
      · intro j before
        apply exists_read_of_contains
        rw [contains_iff]
        omega
    · next enough =>
      have low : bound m.size start = start.toNat := by
        rw [bound, fromStart, if_neg (by omega)]
        omega
      have high : bound m.size (start + count) = start.toNat + count.toNat := by
        rw [bound, fromStart, if_neg (by omega)]
        omega
      rw [low, high, toList_extract_eq]
      refine ⟨?_, fun k v there ↦ read_of_getElem?_drop front there⟩
      rw [List.length_take, List.length_drop, length_toList]
      omega

/-- A window without a positive count is empty unless it wraps. -/
theorem readWindow_of_not_wraps (none : count ≤ 0) (flat : ¬m.Wraps start count) :
    m.readWindow start count = .ok [] := by
  have bounds : bound m.size (start + count) ≤ bound m.size start := by
    have straight : ¬(0 ≤ start ∧ start + count < 0 ∧ 0 < m.size + count) := by
      rintro ⟨front, below, within⟩
      exact flat ⟨front, below, within⟩
    unfold bound fromStart
    split <;> split <;> omega
  rw [readWindow, if_neg (by omega), if_neg (by omega), toList_extract_eq,
    Nat.sub_eq_zero_of_le bounds, List.take_zero]

/-- A window that wraps is not empty. -/
theorem readWindow_of_wraps (wraps : m.Wraps start count) :
    m.readWindow start count =
      .ok ((m.toList.drop start.toNat).take (m.size + count).toNat) := by
  obtain ⟨front, below, within⟩ := wraps
  have low : bound m.size start = start.toNat := by
    rw [bound, fromStart, if_neg (by omega)]
    omega
  have high : bound m.size (start + count) = start.toNat + (m.size + count).toNat := by
    rw [bound, fromStart, if_pos below]
    omega
  rw [readWindow, if_neg (by omega), if_neg (by omega), low, high, toList_extract_eq,
    Nat.add_sub_cancel_left]

/-- A window is read as its cells would be one by one, or has the fault of the first one missing,
unless its end wraps; this only happens if the count is below zero. A window that wraps gives cells
although none are to be read: as many as the memory has more than the count is below zero, from the
start on. -/
theorem readWindow_reads_iff (m : Memory) (start count : Int) :
    (m.Reads start count (m.readWindow start count) ↔ ¬m.Wraps start count) ∧
      (m.Wraps start count →
        count < 0 ∧
          m.readWindow start count =
            .ok ((m.toList.drop start.toNat).take (m.size + count).toNat)) := by
  refine ⟨⟨fun reads wraps ↦ ?_, fun flat ↦ ?_⟩, fun wraps ↦ ?_⟩
  · rw [readWindow_of_wraps wraps] at reads
    have length := reads.1
    obtain ⟨front, below, within⟩ := wraps
    rw [List.length_take, List.length_drop, length_toList] at length
    omega
  · by_cases positive : 0 < count
    · exact reads_readWindow_of_pos positive
    · rw [readWindow_of_not_wraps (by omega) flat]
      exact ⟨by rw [List.length_nil]; omega, nofun⟩
  · have front := wraps.front
    have below := wraps.below
    exact ⟨by omega, readWindow_of_wraps wraps⟩

/-- A window that lacks its last cell has the fault of it, and one that wraps gives two cells. -/
theorem readWindow_reads_iff_each :
    (ofList [10, 20, 30]).Reads 1 3 ((ofList [10, 20, 30]).readWindow 1 3) ∧
      (ofList [10, 20, 30, 40, 50]).Wraps 1 (-3) ∧
      (ofList [10, 20, 30, 40, 50]).readWindow 1 (-3) = .ok [20, 30] :=
  ⟨(readWindow_reads_iff _ 1 3).1.mpr (by decide), by decide,
    ((readWindow_reads_iff _ 1 (-3)).2 (by decide)).2⟩

/-- A window of no cells gives two, because its end is counted from the last cell. -/
theorem readWindow_gives_unread_cells :
    (ofList [10, 20, 30, 40, 50]).readWindow 1 (-3) = .ok [20, 30] ∧
      ¬(ofList [10, 20, 30, 40, 50]).Reads 1 (-3)
        ((ofList [10, 20, 30, 40, 50]).readWindow 1 (-3)) := by
  have given : (ofList [10, 20, 30, 40, 50]).readWindow 1 (-3) = .ok [20, 30] := rfl
  refine ⟨given, ?_⟩
  rw [given]
  rintro ⟨none, -⟩
  cases none

end DecimalMachine.Memory
