import DecimalMachine.Proofs.Decoding
import Mathlib.Tactic.Ring

/-!
# Instructions in memory

An instruction is written down as a word, which packs its operation and its modes, and the operands
behind it. Whatever is packed so is decoded again, at any address and with any digits above the
modes; nothing else is decoded, and a failure names the first thing that stands in the way.
-/

namespace DecimalMachine

/-- The cells from an address on are the given ones. -/
def Memory.Holds (m : Memory) (pc : Int) (xs : List Int) : Prop :=
  ∃ before after, m.toList = before ++ (xs ++ after) ∧ pc = before.length

/-- The number with the given decimal digits, the lowest first. -/
def Mode.number (ds : List Int) : Int := (ds.mapIdx fun i d ↦ d * 10 ^ i).sum

/-- The word that packs an operation, the digits of its modes, and a number to stand above them. -/
def Operation.pack (o : Operation) (ds : List Int) (above : Int) : Int :=
  o.code + 100 * Mode.number ds + above * 10 ^ (o.arity + 2)

/-- The instruction is written down at its address, and its modes are those in its word. -/
structure Instruction.Stands (i : Instruction) (m : Memory) : Prop where
  held : m.Holds i.address (i.word :: i.operands)
  nonneg : 0 ≤ i.word
  code : i.word % 100 = i.operation.code
  complete : i.operands.length = i.operation.arity
  modes : i.modes = Mode.ofWord i.word i.operation.arity

/-! ### Numbers and their digits -/

private theorem emod_mul {a b : Int} (nonneg : 0 ≤ a) (n : Int) :
    n % (a * b) = n % a + a * (n / a % b) := by
  rw [Int.emod_def n, Int.emod_def n a, Int.emod_def (n / a), Int.ediv_ediv_of_nonneg nonneg]
  ring

namespace Mode

private theorem sum_mapIdx_mul (c : Int) (f : Nat → Int → Int) (xs : List Int) :
    (xs.mapIdx fun i x ↦ c * f i x).sum = c * (xs.mapIdx f).sum := by
  induction xs generalizing f with
  | nil => simp
  | cons x xs ih =>
    simp only [List.mapIdx_cons, List.sum_cons, Int.mul_add]
    rw [ih fun i ↦ f (i + 1)]

/-- Without digits there is nothing. -/
@[simp] theorem number_nil : number [] = 0 := rfl

/-- The digits above the lowest count ten times as much. -/
@[simp] theorem number_cons (d : Int) (ds : List Int) :
    number (d :: ds) = d + 10 * number ds := by
  have shifted (i : Nat) (x : Int) : x * 10 ^ (i + 1) = 10 * (x * 10 ^ i) := by
    rw [Int.pow_succ]
    ring
  simp only [number, List.mapIdx_cons, List.sum_cons, shifted, sum_mapIdx_mul]
  simp

/-- The lowest digits of a number make up what is left of it below the others. -/
theorem number_digits (k : Nat) (n : Int) : number (digits k n) = n % 10 ^ k := by
  induction k generalizing n with
  | zero => simp [digits]
  | succ k ih => rw [digits, number_cons, ih, Int.pow_succ', emod_mul (by decide)]

/-- The lowest digits of a number that is made up of digits are these digits. -/
theorem digits_number {ds : List Int} (decimal : ∀ d ∈ ds, 0 ≤ d ∧ d ≤ 9) (above : Int) :
    digits ds.length (number ds + above * 10 ^ ds.length) = ds := by
  induction ds with
  | nil => rfl
  | cons d ds ih =>
    obtain ⟨nonneg, small⟩ := decimal d List.mem_cons_self
    have low : number (d :: ds) + above * 10 ^ (ds.length + 1) =
        d + 10 * (number ds + above * 10 ^ ds.length) := by
      rw [number_cons, Int.pow_succ]
      ring
    rw [List.length_cons, digits, low, Int.add_mul_emod_self_left,
      Int.add_mul_ediv_left d _ (by decide), Int.emod_eq_of_lt nonneg (by omega),
      Int.ediv_eq_zero_of_lt nonneg (by omega), Int.zero_add,
      ih fun e he ↦ decimal e (List.mem_cons_of_mem d he)]

private theorem number_nonneg {ds : List Int} (decimal : ∀ d ∈ ds, 0 ≤ d ∧ d ≤ 9) :
    0 ≤ number ds := by
  induction ds with
  | nil => exact Int.le_refl 0
  | cons d ds ih =>
    have low := (decimal d List.mem_cons_self).1
    have high := ih fun e he ↦ decimal e (List.mem_cons_of_mem d he)
    rw [number_cons]
    omega

/-- What is taken off a number as a digit is a decimal digit. -/
theorem decimal_of_mem_digits {k : Nat} {n d : Int} (h : d ∈ digits k n) : 0 ≤ d ∧ d ≤ 9 := by
  induction k generalizing n with
  | zero => cases h
  | succ k ih =>
    rcases List.mem_cons.mp h with rfl | h
    · omega
    · exact ih h

end Mode

/-! ### Packed words -/

namespace Operation

private theorem eq_code_iff {n : Int} {o p : Operation} (named : ofCode? n = some o) :
    n = p.code ↔ p = o := by
  rw [← ofCode?_eq_some_iff, named, Option.some.injEq, eq_comm]

private theorem ne_code_of_unnamed {n : Int} (unnamed : ofCode? n = none) (o : Operation) :
    n ≠ o.code := by
  rintro rfl
  rw [ofCode?_code] at unnamed
  cases unnamed

private theorem code_lt (o : Operation) : o.code < 100 := by
  cases o <;> decide

private theorem pack_eq (o : Operation) (ds : List Int) (above : Int) :
    o.pack ds above = o.code + 100 * (Mode.number ds + above * 10 ^ o.arity) := by
  rw [pack, Int.pow_add]
  ring

/-- The operation is packed into the two lowest digits. -/
theorem pack_emod (o : Operation) (ds : List Int) (above : Int) :
    o.pack ds above % 100 = o.code := by
  have := o.code_lt
  rw [pack_eq, Int.add_mul_emod_self_left]
  omega

/-- The modes are packed above the operation. -/
theorem ofWord_pack {o : Operation} {ds : List Int} (complete : ds.length = o.arity)
    (decimal : ∀ d ∈ ds, 0 ≤ d ∧ d ≤ 9) (above : Int) :
    Mode.ofWord (o.pack ds above) o.arity = ds.map Mode.ofDigit := by
  have := o.code_lt
  have high : o.pack ds above / 100 = Mode.number ds + above * 10 ^ ds.length := by
    rw [pack_eq, Int.add_mul_ediv_left _ _ (by decide), complete]
    omega
  rw [Mode.ofWord, high, Int.toNat_natCast, ← complete, Mode.digits_number decimal]

/-- A packed word is not below zero. -/
theorem pack_nonneg (o : Operation) {ds : List Int} (decimal : ∀ d ∈ ds, 0 ≤ d ∧ d ≤ 9)
    {above : Int} (nonneg : 0 ≤ above) : 0 ≤ o.pack ds above := by
  have low := Mode.number_nonneg decimal
  have high : 0 ≤ above * 10 ^ o.arity := Int.mul_nonneg nonneg (Int.pow_nonneg (by decide))
  rw [pack_eq]
  omega

end Operation

/-! ### Cells held from an address on -/

namespace Memory

/-- A memory holds a cell and others behind it where it has that cell, and the others are the window
behind it. -/
theorem holds_cons_iff {m : Memory} {pc w : Int} {xs : List Int} :
    m.Holds pc (w :: xs) ↔
      m.get? pc = some w ∧ pc + xs.length < m.size ∧
        (m.toList.drop (pc.toNat + 1)).take xs.length = xs := by
  constructor
  · rintro ⟨before, after, cells, rfl⟩
    have size := congrArg List.length cells
    simp only [length_toList, List.length_append, List.length_cons] at size
    refine ⟨?_, by omega, ?_⟩
    · rw [get?_eq, if_pos (by omega), cells, Int.toNat_natCast]
      simp
    · rw [cells, Int.toNat_natCast]
      simp
  · rintro ⟨cell, enough, behind⟩
    rw [get?_eq] at cell
    split at cell
    · next nonneg =>
      obtain ⟨inside, rfl⟩ := List.getElem?_eq_some_iff.mp cell
      have rest := List.take_append_drop xs.length (m.toList.drop (pc.toNat + 1))
      rw [behind] at rest
      refine ⟨m.toList.take pc.toNat, (m.toList.drop (pc.toNat + 1)).drop xs.length, ?_, ?_⟩
      · rw [List.cons_append, rest, ← List.drop_eq_getElem_cons inside, List.take_append_drop]
      · rw [List.length_take, Nat.min_eq_left (by omega)]
        omega
    · cases cell

/-- An address with a cell is contained. -/
theorem contains_of_get? {m : Memory} {a v : Int} (cell : m.get? a = some v) :
    m.contains a = true := by
  rw [← isSome_get?, cell]
  rfl

end Memory

namespace Instruction

private theorem decode_of_missing {m : Memory} {pc : Int} (missing : m.get? pc = none) :
    decode m pc = .error (.outOfBounds pc m.size) := by
  simp only [decode, Memory.read, missing, Memory.outside]

private theorem decode_eq_ok_iff_of_cell {m : Memory} {pc w : Int} {i : Instruction}
    (cell : m.get? pc = some w) :
    decode m pc = .ok i ↔
      0 ≤ w ∧ ∃ o : Operation, w % 100 = o.code ∧ pc + o.arity < m.size ∧
        i = ⟨pc, w, o, (m.toList.drop (pc.toNat + 1)).take o.arity, Mode.ofWord w o.arity⟩ := by
  have inside := Memory.contains_iff.mp (Memory.contains_of_get? cell)
  rw [decode_eq cell]
  by_cases negative : w < 0
  · have : ¬0 ≤ w := by omega
    simp [negative, this]
  · have nonneg : 0 ≤ w := by omega
    rw [if_neg negative]
    cases named : Operation.ofCode? (w % 100) with
    | none => simp [Operation.ne_code_of_unnamed named]
    | some o =>
      have short : 0 < o.arity ∧ m.size ≤ pc + o.arity ↔ ¬pc + o.arity < m.size := by omega
      simp only [nonneg, true_and, Operation.eq_code_iff named, exists_eq_left, short]
      split
      · next missing => simp [missing]
      · next enough => simp [Decidable.not_not.mp enough, eq_comm]

/-- Only an instruction that stands at an address is decoded there. -/
theorem decode_eq_ok_iff {m : Memory} {pc : Int} {i : Instruction} :
    decode m pc = .ok i ↔ i.address = pc ∧ i.Stands m := by
  constructor
  · intro decoded
    cases cell : m.get? pc with
    | none =>
      rw [decode_of_missing cell] at decoded
      cases decoded
    | some w =>
      obtain ⟨nonneg, o, code, enough, rfl⟩ := (decode_eq_ok_iff_of_cell cell).mp decoded
      have inside := Memory.contains_iff.mp (Memory.contains_of_get? cell)
      have complete : ((m.toList.drop (pc.toNat + 1)).take o.arity).length = o.arity := by
        rw [List.length_take, List.length_drop, Memory.length_toList]
        omega
      have held : m.Holds pc (w :: (m.toList.drop (pc.toNat + 1)).take o.arity) := by
        rw [Memory.holds_cons_iff, complete]
        exact ⟨cell, enough, rfl⟩
      exact ⟨rfl, held, nonneg, code, complete, rfl⟩
  · rintro ⟨rfl, held, nonneg, code, complete, modes⟩
    obtain ⟨cell, enough, behind⟩ := Memory.holds_cons_iff.mp held
    rw [complete] at enough behind
    refine (decode_eq_ok_iff_of_cell cell).mpr ⟨nonneg, i.operation, code, enough, ?_⟩
    rw [behind, ← modes]

/-- Why nothing is decoded at an address. -/
theorem decode_eq_error_iff {m : Memory} {pc : Int} {f : Fault} :
    decode m pc = .error f ↔
      m.contains pc = false ∧ f = .outOfBounds pc m.size ∨
        ∃ w, m.get? pc = some w ∧
          (w < 0 ∧ f = .unknownOperation w (some pc) ∨
            0 ≤ w ∧ (∀ o : Operation, w % 100 ≠ o.code) ∧
              f = .unknownOperation (w % 100) (some pc) ∨
            ∃ o : Operation, 0 ≤ w ∧ w % 100 = o.code ∧ m.size ≤ pc + o.arity ∧
              f = .outOfBounds m.size m.size) := by
  cases cell : m.get? pc with
  | none =>
    have outside : m.contains pc = false := by
      rw [← Memory.isSome_get?, cell]
      rfl
    simp [decode_of_missing cell, outside, eq_comm]
  | some w =>
    have inside := Memory.contains_iff.mp (Memory.contains_of_get? cell)
    simp only [Memory.contains_of_get? cell, Bool.true_eq_false, false_and, false_or,
      Option.some.injEq, exists_eq_left', decode_eq cell]
    by_cases negative : w < 0
    · have : ¬0 ≤ w := by omega
      simp [negative, this, eq_comm]
    · have nonneg : 0 ≤ w := by omega
      simp only [negative, nonneg, if_false, false_and, false_or, true_and]
      cases named : Operation.ofCode? (w % 100) with
      | none => simp [Operation.ne_code_of_unnamed named, eq_comm]
      | some o =>
        have short : 0 < o.arity ∧ m.size ≤ pc + o.arity ↔ m.size ≤ pc + o.arity := by omega
        simp only [ne_eq, Operation.eq_code_iff named, short, exists_eq_left]
        split
        · next missing => simp [missing, eq_comm]
        · next enough => simp [enough]

/-- A word, its operation and enough cells are all that it takes to decode an instruction. -/
theorem decodes_iff {m : Memory} {pc : Int} :
    (∃ i, decode m pc = .ok i) ↔
      ∃ w o, 0 ≤ pc ∧ pc < m.size ∧ m.get? pc = some w ∧ 0 ≤ w ∧ w % 100 = Operation.code o ∧
        pc + o.arity < m.size := by
  constructor
  · rintro ⟨i, decoded⟩
    obtain ⟨rfl, held, nonneg, code, complete, -⟩ := decode_eq_ok_iff.mp decoded
    obtain ⟨cell, enough, -⟩ := Memory.holds_cons_iff.mp held
    obtain ⟨low, high⟩ := Memory.contains_iff.mp (Memory.contains_of_get? cell)
    rw [complete] at enough
    exact ⟨i.word, i.operation, low, high, cell, nonneg, code, enough⟩
  · rintro ⟨w, o, -, -, cell, nonneg, code, enough⟩
    exact ⟨_, (decode_eq_ok_iff_of_cell cell).mpr ⟨nonneg, o, code, enough, rfl⟩⟩

/-- The modes of an instruction in memory are the digits of its word above the operation. -/
theorem Stands.packed {i : Instruction} {m : Memory} (stands : i.Stands m) :
    ∃ ds, i.modes = ds.map Mode.ofDigit ∧ ds.length = i.operation.arity ∧
      (∀ d ∈ ds, 0 ≤ d ∧ d ≤ 9) ∧
      i.word % 10 ^ (i.operation.arity + 2) = i.operation.code + 100 * Mode.number ds := by
  refine ⟨Mode.digits i.operation.arity (i.word / 100), stands.modes, Mode.length_digits _ _,
    fun d ↦ Mode.decimal_of_mem_digits, ?_⟩
  rw [Nat.add_comm, Int.pow_add, emod_mul (by decide), Mode.number_digits, ← stands.code]
  rfl

/-- What is packed into a word, with the operands behind it, is an instruction in memory. -/
theorem stands_pack {m : Memory} {pc above : Int} {o : Operation} {ds xs : List Int}
    (digits : ds.length = o.arity) (decimal : ∀ d ∈ ds, 0 ≤ d ∧ d ≤ 9)
    (operands : xs.length = o.arity) (nonneg : 0 ≤ above)
    (held : m.Holds pc (o.pack ds above :: xs)) :
    Stands ⟨pc, o.pack ds above, o, xs, ds.map Mode.ofDigit⟩ m where
  held := held
  nonneg := o.pack_nonneg decimal nonneg
  code := o.pack_emod ds above
  complete := operands
  modes := (Operation.ofWord_pack digits decimal above).symm

/-- An instruction is decoded at an address exactly where there is a word not below zero, whose two
lowest digits are an operation, with cells for its operands behind it. What is decoded is what
stands there, and its modes are digits of the word; whatever is packed into a word is decoded again;
and where nothing is decoded, the fault names what is missing first. -/
theorem decode_reads_what_is_packed (m : Memory) (pc : Int) :
    ((∃ i, decode m pc = .ok i) ↔
        ∃ w o, 0 ≤ pc ∧ pc < m.size ∧ m.get? pc = some w ∧ 0 ≤ w ∧ w % 100 = Operation.code o ∧
          pc + o.arity < m.size) ∧
      (∀ i, decode m pc = .ok i →
        i.address = pc ∧ m.Holds pc (i.word :: i.operands) ∧ i.word % 100 = i.operation.code ∧
          i.operands.length = i.operation.arity ∧
          ∃ ds, i.modes = ds.map Mode.ofDigit ∧ ds.length = i.operation.arity ∧
            (∀ d ∈ ds, 0 ≤ d ∧ d ≤ 9) ∧
            i.word % 10 ^ (i.operation.arity + 2) = i.operation.code + 100 * Mode.number ds) ∧
      (∀ (o : Operation) (ds xs : List Int) (above : Int), ds.length = o.arity →
        (∀ d ∈ ds, 0 ≤ d ∧ d ≤ 9) → xs.length = o.arity → 0 ≤ above →
        m.Holds pc (o.pack ds above :: xs) →
          decode m pc = .ok ⟨pc, o.pack ds above, o, xs, ds.map Mode.ofDigit⟩) ∧
      ∀ f, decode m pc = .error f ↔
        m.contains pc = false ∧ f = .outOfBounds pc m.size ∨
          ∃ w, m.get? pc = some w ∧
            (w < 0 ∧ f = .unknownOperation w (some pc) ∨
              0 ≤ w ∧ (∀ o : Operation, w % 100 ≠ o.code) ∧
                f = .unknownOperation (w % 100) (some pc) ∨
              ∃ o : Operation, 0 ≤ w ∧ w % 100 = o.code ∧ m.size ≤ pc + o.arity ∧
                f = .outOfBounds m.size m.size) := by
  refine ⟨decodes_iff, ?_, ?_, fun f ↦ decode_eq_error_iff⟩
  · intro i decoded
    obtain ⟨rfl, stands⟩ := decode_eq_ok_iff.mp decoded
    exact ⟨rfl, stands.held, stands.code, stands.complete, stands.packed⟩
  · intro o ds xs above digits decimal operands nonneg held
    exact decode_eq_ok_iff.mpr ⟨rfl, stands_pack digits decimal operands nonneg held⟩

/-- A product with one mode of each kind, and a digit above the modes, in the middle of a memory. -/
theorem decode_reads_what_is_packed_product :
    (Memory.ofList [9, 721002, 4, 3, 4, 33]).Holds 1
        (Operation.multiply.pack [0, 1, 2] 7 :: [4, 3, 4]) ∧
      decode (Memory.ofList [9, 721002, 4, 3, 4, 33]) 1 =
        .ok ⟨1, 721002, .multiply, [4, 3, 4], [.position, .immediate, .unassigned 2]⟩ := by
  have held : (Memory.ofList [9, 721002, 4, 3, 4, 33]).Holds 1
      (Operation.multiply.pack [0, 1, 2] 7 :: [4, 3, 4]) := ⟨[9], [33], by decide, by decide⟩
  obtain ⟨-, -, packed, -⟩ := decode_reads_what_is_packed (Memory.ofList [9, 721002, 4, 3, 4, 33]) 1
  exact ⟨held, packed .multiply [0, 1, 2] [4, 3, 4] 7 rfl (by decide) rfl (by decide) held⟩

end Instruction
end DecimalMachine
