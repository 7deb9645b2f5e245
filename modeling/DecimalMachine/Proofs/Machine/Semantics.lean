import DecimalMachine.Proofs.Decoding
import DecimalMachine.Proofs.Machine.Plan

/-!
# The instruction set

What one step does, told from the cells alone: from the word at the program counter, the decimal
digits of it, and the cells behind it, all as they are before the step. A step trips over the first
of a list of objections that holds; if none does, it has performed its instruction.
-/

namespace DecimalMachine

/-- Something that a step may trip over, and the fault that it is then reported as. -/
structure Objection where
  holds : Bool
  fault : Fault

namespace Objection

/-- The fault of the first objection that holds. -/
def first (os : List Objection) : Option Fault := (os.find? (·.holds)).map (·.fault)

/-- A value, unless an objection holds. -/
def judge {α : Type} (os : List Objection) (a : α) : Except Fault α :=
  match first os with
  | some f => .error f
  | none => .ok a

end Objection

namespace Machine

/-! ### The cells of a step -/

/-- The cell at the program counter. -/
def word (m : Machine) : Int := (m.memory.get? m.pc).getD 0

/-- The two lowest digits of the word. -/
def opcode (m : Machine) : Int := m.word % 100

/-- The digit of the word for an operand; operands are counted from one. -/
def digit (m : Machine) (i : Nat) : Int := m.word / 10 ^ (1 + i) % 10

/-- The cell of an operand. -/
def operand (m : Machine) (i : Nat) : Int := (m.memory.get? (m.pc + i)).getD 0

/-- The value of an operand that is read: the cell it is the address of, or the operand itself. -/
def value (m : Machine) (i : Nat) : Int :=
  if m.digit i = 0 then (m.memory.get? (m.operand i)).getD 0 else m.operand i

/-- How many operands follow a word with the given two lowest digits. -/
def operandCount? : Int → Option Nat
  | 1 | 2 | 7 | 8 => some 3
  | 5 | 6 => some 2
  | 3 | 4 => some 1
  | 99 => some 0
  | _ => none

/-! ### Objections -/

/-- The objections to an operand that is read. -/
def sourceObjections (m : Machine) (i : Nat) : List Objection :=
  [⟨decide (2 ≤ m.digit i), .badMode (m.digit i) (some m.pc) Fault.unknownMode⟩,
    ⟨decide (m.digit i = 0 ∧ m.memory.contains (m.operand i) = false),
      .outOfBounds (m.operand i) m.memory.size⟩]

/-- The objections to an operand that is written. -/
def destinationObjections (m : Machine) (i : Nat) : List Objection :=
  [⟨decide (m.digit i ≠ 0), .badMode (m.digit i) (some m.pc)
      (if m.digit i = 1 then Fault.immediateDestination else Fault.unknownMode)⟩,
    ⟨!m.memory.contains (m.operand i), .outOfBounds (m.operand i) m.memory.size⟩]

/-- The objection to a jump, which only counts if the jump is taken. -/
def jumpObjections (m : Machine) (taken : Bool) : List Objection :=
  [⟨taken && decide (m.value 2 < 0), .outOfBounds (m.value 2) m.memory.size⟩]

/-- The objections to the operands, from left to right. The target of a jump is read in any case;
the destination of an input is only looked at if there is an input. -/
def operandObjections (m : Machine) : List Objection :=
  match m.opcode with
  | 1 | 2 | 7 | 8 => m.sourceObjections 1 ++ (m.sourceObjections 2 ++ m.destinationObjections 3)
  | 3 => if m.inputs = [] then [] else m.destinationObjections 1
  | 4 => m.sourceObjections 1
  | 5 => m.sourceObjections 1 ++ (m.sourceObjections 2 ++ m.jumpObjections (m.value 1 ≠ 0))
  | 6 => m.sourceObjections 1 ++ (m.sourceObjections 2 ++ m.jumpObjections (m.value 1 = 0))
  | _ => []

/-- The objections to the word at the program counter, and to the number of cells behind it. -/
def wordObjections (m : Machine) : List Objection :=
  let n := (operandCount? m.opcode).getD 0
  [⟨decide (m.word < 0), .unknownOperation m.word (some m.pc)⟩,
    ⟨(operandCount? m.opcode).isNone, .unknownOperation m.opcode (some m.pc)⟩,
    ⟨decide (0 < n ∧ m.memory.size ≤ m.pc + n), .outOfBounds m.memory.size m.memory.size⟩]

/-- All objections to a step, the first to be raised first. -/
def objections (m : Machine) : List Objection :=
  ⟨!m.memory.contains m.pc, .ranOff m.pc m.memory.size⟩ ::
    (m.wordObjections ++ m.operandObjections)

/-! ### The instruction performed -/

/-- The machine with a result stored where the third operand says. -/
def stored (m : Machine) (result : Int) : Machine :=
  { m with state := .running, memory := m.memory.set (m.operand 3) result, pc := m.pc + 4 }

/-- The machine that jumps to its second operand, or goes on with the next instruction. -/
def branched (m : Machine) (taken : Bool) : Machine :=
  { m with state := .running, pc := if taken then m.value 2 else m.pc + 3 }

/-- The machine that takes an input, or waits for one. -/
def received (m : Machine) : Machine :=
  match m.inputs with
  | [] => { m with state := .waitingForInput }
  | v :: rest =>
    { m with
      state := .running, memory := m.memory.set (m.operand 1) v, inputs := rest, pc := m.pc + 2 }

/-- The machine after its instruction, if nothing is to be said against it. -/
def performed (m : Machine) : Machine :=
  match m.opcode with
  | 1 => m.stored (m.value 1 + m.value 2)
  | 2 => m.stored (m.value 1 * m.value 2)
  | 3 => m.received
  | 4 => { m with state := .running, outputs := m.outputs.push (m.value 1), pc := m.pc + 2 }
  | 5 => m.branched (m.value 1 ≠ 0)
  | 6 => m.branched (m.value 1 = 0)
  | 7 => m.stored (if m.value 1 < m.value 2 then 1 else 0)
  | 8 => m.stored (if m.value 1 = m.value 2 then 1 else 0)
  | 99 => { m with state := .terminated }
  | _ => m

/-- The effect of the instruction, told from the cells. -/
def work (m : Machine) : Effect Int :=
  match m.opcode with
  | 1 => .store (m.operand 3) (m.value 1 + m.value 2)
  | 2 => .store (m.operand 3) (m.value 1 * m.value 2)
  | 3 =>
    match m.inputs with
    | [] => .suspend
    | v :: _ => .take (m.operand 1) v
  | 4 => .emit (m.value 1)
  | 5 => if m.value 1 ≠ 0 then .jump (m.value 2) else .pass
  | 6 => if m.value 1 = 0 then .jump (m.value 2) else .pass
  | 7 => .store (m.operand 3) (if m.value 1 < m.value 2 then 1 else 0)
  | 8 => .store (m.operand 3) (if m.value 1 = m.value 2 then 1 else 0)
  | _ => .halt

end Machine

/-! ### Judging -/

namespace Objection

private theorem first_cons_of_holds {o : Objection} (os : List Objection) (h : o.holds = true) :
    first (o :: os) = some o.fault := by
  simp [first, h]

/-- An objection that does not hold is passed over. -/
theorem first_cons_of_fails {o : Objection} (os : List Objection) (h : o.holds = false) :
    first (o :: os) = first os := by
  simp [first, h]

/-- Of two lists the first is gone through first. -/
theorem first_append (os ds : List Objection) :
    first (os ++ ds) = (first os).or (first ds) := by
  simp only [first, List.find?_append]
  cases os.find? (·.holds) with
  | none => rfl
  | some o => rfl

private theorem judge_bind {α β : Type} {os ds : List Objection} {a : α} {b : β}
    {f : α → Except Fault β}
    (h : f a = judge ds b) : judge os a >>= f = judge (os ++ ds) b := by
  unfold judge at h ⊢
  rw [first_append]
  cases first os with
  | none => exact h
  | some g => rfl

private theorem judge_map {α β : Type} (os : List Objection) (a : α) (f : α → β) :
    (judge os a).map f = judge os (f a) := by
  unfold judge
  cases first os with
  | none => rfl
  | some g => rfl

end Objection

namespace Mode

private theorem ofDigit_of_two_le {d : Int} (h : 2 ≤ d) : ofDigit d = unassigned d := by
  unfold ofDigit
  split
  · omega
  · omega
  · rfl

end Mode

namespace Machine

open Objection

/-- A digit is nought, one or more. -/
theorem digit_cases (m : Machine) (i : Nat) : m.digit i = 0 ∨ m.digit i = 1 ∨ 2 ≤ m.digit i := by
  have nonneg : 0 ≤ m.digit i := Int.emod_nonneg _ (by decide)
  omega

/-- The instruction is what the word and the cells behind it say. -/
structure Spells (m : Machine) (o : Operation) (i : Instruction) : Prop where
  address : i.address = m.pc
  operation : i.operation = o
  width : i.width = 1 + o.arity
  cell : ∀ k, k < o.arity → i.operand k = m.operand (k + 1)
  mode : ∀ k, k < o.arity → i.mode k = .ofDigit (m.digit (k + 1))

private theorem source_eq {m : Machine} {o : Operation} {i : Instruction} (spells : m.Spells o i)
    {k : Nat}
    (h : k < o.arity) :
    i.source m.memory k = judge (m.sourceObjections (k + 1)) (m.value (k + 1)) := by
  unfold Instruction.source
  rw [spells.mode k h, spells.cell k h, spells.address]
  rcases m.digit_cases (k + 1) with zero | one | more
  · cases hr : m.memory.get? (m.operand (k + 1)) with
    | none =>
      have outside : m.memory.contains (m.operand (k + 1)) = false := by
        rw [← Memory.isSome_get?, hr]
        rfl
      simp [zero, Mode.ofDigit, Memory.read, hr, judge, first, sourceObjections, outside,
        Memory.outside]
    | some v =>
      have inside : m.memory.contains (m.operand (k + 1)) = true := by
        rw [← Memory.isSome_get?, hr]
        rfl
      simp [zero, Mode.ofDigit, Memory.read, hr, judge, first, sourceObjections, inside, value]
  · simp [one, Mode.ofDigit, judge, first, sourceObjections, value]
  · simp [Mode.ofDigit_of_two_le more, judge, first, sourceObjections, more]

private theorem destination_eq {m : Machine} {o : Operation} {i : Instruction}
    (spells : m.Spells o i)
    {k : Nat} (h : k < o.arity) :
    i.destination m.memory k =
      judge (m.destinationObjections (k + 1)) (m.operand (k + 1)) := by
  unfold Instruction.destination
  rw [spells.mode k h, spells.cell k h, spells.address]
  rcases m.digit_cases (k + 1) with zero | one | more
  · cases inside : m.memory.contains (m.operand (k + 1)) with
    | false =>
      simp [zero, Mode.ofDigit, inside, judge, first, destinationObjections, Memory.outside]
    | true => simp [zero, Mode.ofDigit, inside, judge, first, destinationObjections]
  · simp [one, Mode.ofDigit, judge, first, destinationObjections]
  · have other : m.digit (k + 1) ≠ 0 ∧ m.digit (k + 1) ≠ 1 := by omega
    simp [Mode.ofDigit_of_two_le more, judge, first, destinationObjections, other]

private theorem combine_eq {m : Machine} {o : Operation} {i : Instruction} (spells : m.Spells o i)
    (three : o.arity = 3) (f : Int → Int → Int) :
    i.combine m.memory f =
      judge (m.sourceObjections 1 ++ (m.sourceObjections 2 ++ m.destinationObjections 3))
        (.store (m.operand 3) (f (m.value 1) (m.value 2))) := by
  unfold Instruction.combine
  rw [source_eq spells (k := 0) (by omega), source_eq spells (k := 1) (by omega),
    destination_eq spells (k := 2) (by omega)]
  exact judge_bind (judge_bind (judge_map _ _ _))

private theorem branch_eq {m : Machine} {o : Operation} {i : Instruction} (spells : m.Spells o i)
    (two : o.arity = 2) (test : Int → Bool) :
    i.branch m.memory test =
      judge (m.sourceObjections 1 ++ (m.sourceObjections 2 ++ m.jumpObjections (test (m.value 1))))
        (if test (m.value 1) then .jump (m.value 2) else .pass) := by
  unfold Instruction.branch
  rw [source_eq spells (k := 0) (by omega), source_eq spells (k := 1) (by omega)]
  refine judge_bind (judge_bind ?_)
  cases taken : test (m.value 1) with
  | false => rfl
  | true =>
    by_cases below : m.value 2 < 0
    · simp [below, judge, first, jumpObjections, Memory.outside]
    · simp [below, judge, first, jumpObjections]

/-- An instruction has the effect that the cells tell. -/
theorem effect_eq {m : Machine} {o : Operation} {i : Instruction} (spells : m.Spells o i)
    (code : m.opcode = o.code) :
    i.effect m.memory m.inputs = judge m.operandObjections m.work := by
  unfold Instruction.effect operandObjections work
  rw [code, spells.operation]
  cases o with
  | add => exact combine_eq spells rfl Operation.sum
  | multiply => exact combine_eq spells rfl Operation.product
  | lessThan => exact combine_eq spells rfl Operation.smaller
  | equals => exact combine_eq spells rfl Operation.same
  | input =>
    cases hi : m.inputs with
    | nil => rfl
    | cons v rest =>
      have reads := destination_eq spells (k := 0) (by decide)
      simp only [reads, judge_map]
      rfl
  | output =>
    have reads := source_eq spells (k := 0) (by decide)
    simp only [reads, judge_map]
    rfl
  | jumpIfTrue =>
    simpa [Operation.nonzero, Operation.code] using branch_eq spells rfl Operation.nonzero
  | jumpIfFalse =>
    simpa [Operation.zero, Operation.code] using branch_eq spells rfl Operation.zero
  | halt => rfl

private theorem apply_work {m : Machine} {o : Operation} (code : m.opcode = o.code) :
    m.start.apply (1 + o.arity) m.work = m.performed := by
  unfold work performed
  rw [code]
  cases o with
  | input =>
    cases hi : m.inputs with
    | nil => simp [Operation.code, received, hi, apply, start]
    | cons v rest => simp [Operation.code, received, hi, apply, start, Operation.arity]
  | jumpIfTrue =>
    by_cases taken : m.value 1 = 0
    · simp [Operation.code, branched, taken, apply, start, Operation.arity]
    · simp [Operation.code, branched, taken, apply, start]
  | jumpIfFalse =>
    by_cases taken : m.value 1 = 0
    · simp [Operation.code, branched, taken, apply, start]
    · simp [Operation.code, branched, taken, apply, start, Operation.arity]
  | _ => rfl

/-! ### The step -/

/-- An operation has as many operands as the cells tell. -/
theorem operandCount?_code (o : Operation) : operandCount? o.code = some o.arity := by
  cases o <;> rfl

private theorem operandCount?_of_none {n : Int} (h : Operation.ofCode? n = none) :
    operandCount? n = none := by
  unfold operandCount?
  split <;> first | rfl | cases h

private theorem spells_decoded {m : Machine} (o : Operation)
    (inside : m.memory.contains m.pc = true)
    (long : ¬(0 < o.arity ∧ m.memory.size ≤ m.pc + o.arity)) :
    m.Spells o ⟨m.pc, m.word, o, (m.memory.toList.drop (m.pc.toNat + 1)).take o.arity,
      Mode.ofWord m.word o.arity⟩ := by
  obtain ⟨nonneg, below⟩ := Memory.contains_iff.mp inside
  refine ⟨rfl, rfl, ?_, fun k h ↦ Memory.getD_window nonneg h, fun k h ↦ Mode.getD_ofWord _ h⟩
  have enough : o.arity ≤ m.memory.size - (m.pc.toNat + 1) := by omega
  simp only [Instruction.width, List.length_take, List.length_drop, Memory.length_toList,
    Nat.min_eq_left enough]

/-- Decoding meets the first objection to the word, or gives the instruction that the cells spell.
-/
theorem decode_word {m : Machine} (inside : m.memory.contains m.pc = true) :
    (∃ f, first m.wordObjections = some f ∧ Instruction.decode m.memory m.pc = .error f) ∨
      ∃ (o : Operation) (i : Instruction), first m.wordObjections = none ∧ m.opcode = o.code ∧
        m.Spells o i ∧ Instruction.decode m.memory m.pc = .ok i := by
  have cell : m.memory.get? m.pc = some m.word := by
    obtain ⟨w, hw⟩ := Option.isSome_iff_exists.mp ((Memory.isSome_get? _ _).trans inside)
    rw [word, hw, Option.getD_some]
  have low : m.word % 100 = m.opcode := rfl
  rw [Instruction.decode_eq cell, low, wordObjections]
  by_cases negative : m.word < 0
  · rw [if_pos negative, first_cons_of_holds _ (decide_eq_true negative)]
    exact .inl ⟨_, rfl, rfl⟩
  · rw [if_neg negative, first_cons_of_fails _ (decide_eq_false negative)]
    cases named : Operation.ofCode? m.opcode with
    | none =>
      rw [operandCount?_of_none named, first_cons_of_holds _ rfl]
      exact .inl ⟨_, rfl, rfl⟩
    | some o =>
      have code : m.opcode = o.code := Operation.ofCode?_eq_some_iff.mp named
      have count : operandCount? m.opcode = some o.arity := by rw [code, operandCount?_code]
      rw [count, first_cons_of_fails _ rfl, Option.getD_some]
      by_cases short : 0 < o.arity ∧ m.memory.size ≤ m.pc + o.arity
      · rw [first_cons_of_holds _ (decide_eq_true short)]
        exact .inl ⟨_, rfl, if_pos short⟩
      · rw [first_cons_of_fails _ (decide_eq_false short)]
        exact .inr ⟨o, _, rfl, code, spells_decoded o inside short, if_neg short⟩

/-- The plan of a machine, told from the cells: it meets the first objection, or is to do the work
of the operation that the opcode names. -/
theorem plan_eq (m : Machine) :
    (∃ f, first m.objections = some f ∧ m.plan = .error f) ∨
      ∃ (o : Operation) (i : Instruction), first m.objections = none ∧ m.opcode = o.code ∧
        i.width = 1 + o.arity ∧ m.plan = .ok (i, m.work) := by
  unfold plan objections
  cases inside : m.memory.contains m.pc with
  | false =>
    refine .inl ⟨_, first_cons_of_holds _ rfl, ?_⟩
    rw [if_neg Bool.false_ne_true, ranOff]
  | true =>
    rw [if_pos rfl, first_cons_of_fails _ rfl, first_append]
    rcases decode_word inside with ⟨f, raised, decoded⟩ | ⟨o, i, clear, code, spells, decoded⟩
    · rw [raised, decoded]
      exact .inl ⟨f, rfl, rfl⟩
    · have effect := effect_eq spells code
      rw [clear, decoded, Option.none_or]
      cases hf : first m.operandObjections with
      | some f =>
        rw [judge, hf] at effect
        exact .inl ⟨f, rfl, by simp only [effect]⟩
      | none =>
        rw [judge, hf] at effect
        exact .inr ⟨o, i, rfl, code, spells.width, by simp only [effect]⟩

/-- A step trips over the first objection that holds, and has then done nothing but start and keep
the fault; if no objection holds, it has performed its instruction. The trace aside, that is all. -/
theorem step_semantics {m : Machine} (live : m.Live) :
    m.step.result = judge m.objections m.performed.state ∧
      ∃ lines, (m.tracing = false → lines = m.trace) ∧
        m.step.machine =
          match first m.objections with
          | some f => { m with state := .running, fault := some f, trace := lines }
          | none => { m.performed with trace := lines } := by
  rcases m.plan_eq with ⟨f, raised, planned⟩ | ⟨o, i, clear, code, width, planned⟩
  · obtain ⟨result, lines, left⟩ := step_of_plan_error live planned
    rw [judge, raised]
    refine ⟨result, lines, ?_, left⟩
    intro quiet
    rw [← trace_step quiet, left]
  · obtain ⟨lines, noted⟩ := note_eq m.start i
    have carried : ({ m.start with trace := lines } : Machine).apply i.width m.work =
        { m.performed with trace := lines } := by
      rw [← apply_work code, width]
      cases m.work <;> rfl
    have left : m.step.machine = { m.performed with trace := lines } := by
      rw [step_of_plan_ok live planned, noted, carried]
    rw [judge, clear]
    refine ⟨?_, lines, ?_, left⟩
    · rw [step_of_plan_ok live planned, noted, carried]
    · intro quiet
      rw [← trace_step quiet, left]

/-- An addition overwrites its own word, and a multiplication trips over its second operand before
its destination. -/
theorem step_semantics_aliasing :
    (ofCells [1101, 5, 6, 0, 99] [] false).Live ∧
      (ofCells [1101, 5, 6, 0, 99] [] false).step.result = .ok .running ∧
      (ofCells [1101, 5, 6, 0, 99] [] false).step.machine =
        { ofCells [11, 5, 6, 0, 99] [] false with pc := 4, state := .running } ∧
      (ofCells [12102, 5, -1, 0, 99] [] false).step.result =
        .error (.badMode 2 (some 0) Fault.unknownMode) := by
  obtain ⟨runs, lines, quiet, overwritten⟩ :=
    step_semantics (m := ofCells [1101, 5, 6, 0, 99] [] false) (by decide)
  have tripped := step_semantics (m := ofCells [12102, 5, -1, 0, 99] [] false) (by decide)
  rw [quiet rfl] at overwritten
  exact ⟨by decide, runs, overwritten, tripped.1⟩

end Machine
end DecimalMachine
