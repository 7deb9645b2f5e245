import DecimalMachine.Instruction
import Mathlib.Algebra.Group.Int.Defs

/-!
# Decoding, told from the cells

Decoding at an address that has a cell comes down to three questions: is the word below zero, do its
two lowest digits name an operation, and are there enough cells behind it. The operands are then the
cells behind the word, and the modes the decimal digits above the hundreds.
-/

namespace DecimalMachine

private theorem Memory.readWindow_behind {m : Memory} {pc : Int} (n : Nat)
    (inside : m.contains pc = true) :
    m.readWindow (pc + 1) n =
      if 0 < n ∧ m.size ≤ pc + n then .error (.outOfBounds m.size m.size)
      else .ok ((m.toList.drop (pc.toNat + 1)).take n) := by
  obtain ⟨nonneg, below⟩ := contains_iff.mp inside
  obtain ⟨p, rfl⟩ := Int.eq_ofNat_of_zero_le nonneg
  unfold readWindow
  by_cases short : 0 < n ∧ m.size ≤ (p : Int) + n
  · rw [if_pos short]
    split
    · next missing =>
      have : ¬m.contains (p + 1) = true := missing.2
      rw [contains_iff] at this
      have last : (p : Int) + 1 = m.size := by omega
      rw [last, outside]
    · next present => rw [if_pos (by omega), outside]
  · rw [if_neg short, if_neg (by rw [contains_iff]; omega), if_neg (by omega)]
    congr 1
    have hn : p + 1 + n ≤ m.size := by omega
    have start : bound m.size ((p : Int) + 1) = p + 1 := bound_natCast (i := p + 1) (by omega)
    have stop : bound m.size ((p : Int) + 1 + n) = p + 1 + n := bound_natCast (i := p + 1 + n) hn
    rw [toList_extract, window, length_toList, start, stop, List.drop_take]
    congr 1
    omega

/-- A cell behind an address is an element of the window behind it. -/
theorem Memory.getD_window {m : Memory} {pc : Int} {n k : Nat} (nonneg : 0 ≤ pc) (h : k < n) :
    ((m.toList.drop (pc.toNat + 1)).take n).getD k 0 = (m.get? (pc + (k + 1 : Nat))).getD 0 := by
  have there : (pc + (k + 1 : Nat)).toNat = pc.toNat + 1 + k := by omega
  rw [get?_eq, if_pos (by omega), there, List.getD_eq_getElem?_getD, List.getElem?_take_of_lt h,
    List.getElem?_drop]

namespace Mode

private theorem getElem?_digits (n k : Nat) (w : Int) :
    (digits n w)[k]? = if k < n then some (w / 10 ^ k % 10) else none := by
  induction n generalizing k w with
  | zero => simp [digits]
  | succ n ih =>
    cases k with
    | zero => simp [digits]
    | succ k =>
      have shifted : w / 10 / 10 ^ k = w / 10 ^ (k + 1) := by
        rw [Int.ediv_ediv_of_nonneg (by decide), Int.pow_succ']
      simp [digits, ih, shifted]

/-- The mode of an operand is the digit at its place, the hundreds first. -/
theorem getD_ofWord {n k : Nat} (w : Int) (h : k < n) :
    (ofWord w n).getD k .position = ofDigit (w / 10 ^ (1 + (k + 1)) % 10) := by
  have shifted : w / 100 / 10 ^ k = w / 10 ^ (1 + (k + 1)) := by
    rw [Int.ediv_ediv_of_nonneg (by decide), show 1 + (k + 1) = 2 + k by omega, Int.pow_add]
    rfl
  rw [ofWord, List.getD_eq_getElem?_getD, List.getElem?_map, Int.toNat_natCast, getElem?_digits,
    if_pos h, shifted]
  rfl

end Mode

namespace Instruction

/-- Decoding at an address that has a cell. -/
theorem decode_eq {m : Memory} {pc w : Int} (cell : m.get? pc = some w) :
    decode m pc =
      if w < 0 then .error (.unknownOperation w (some pc))
      else
        match Operation.ofCode? (w % 100) with
        | none => .error (.unknownOperation (w % 100) (some pc))
        | some o =>
          if 0 < o.arity ∧ m.size ≤ pc + o.arity then .error (.outOfBounds m.size m.size)
          else
            .ok ⟨pc, w, o, (m.toList.drop (pc.toNat + 1)).take o.arity, Mode.ofWord w o.arity⟩ := by
  have inside : m.contains pc = true := by rw [← Memory.isSome_get?, cell]; rfl
  simp only [decode, Memory.read_eq_ok_iff.mpr cell, unpack]
  by_cases negative : w < 0
  · simp only [if_pos negative]
  · simp only [if_neg negative]
    cases Operation.ofCode? (w % 100) with
    | none => rfl
    | some o =>
      simp only [Mode.length_ofWord, Int.toNat_natCast, Memory.readWindow_behind o.arity inside]
      by_cases short : 0 < o.arity ∧ m.size ≤ pc + o.arity
      · simp only [if_pos short]
      · simp only [if_neg short]

end Instruction
end DecimalMachine
