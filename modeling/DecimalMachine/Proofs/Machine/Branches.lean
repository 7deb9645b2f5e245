import DecimalMachine.Proofs.Machine.Semantics

/-!
# Jumps that are not taken

A jump reads both of its operands before it looks at the value that decides. So a jump that is not
taken, which does nothing with its target, goes on with the next instruction exactly if the target
could be read all the same; if not, it meets the fault that reading the target meets.
-/

namespace DecimalMachine.Machine

open Objection

/-- The operand can be read: it is a value itself, or the address of a cell. -/
def Resolves (m : Machine) (i : Nat) : Prop :=
  m.digit i = 1 ∨ m.digit i = 0 ∧ m.memory.contains (m.operand i) = true

/-- Whether an operand can be read is decided by its digit and its address. -/
instance (m : Machine) (i : Nat) : Decidable (m.Resolves i) :=
  inferInstanceAs <| Decidable <|
    m.digit i = 1 ∨ m.digit i = 0 ∧ m.memory.contains (m.operand i) = true

/-- The fault of an operand that cannot be read. -/
def unreadable (m : Machine) (i : Nat) : Fault :=
  if 2 ≤ m.digit i then .badMode (m.digit i) (some m.pc) Fault.unknownMode
  else .outOfBounds (m.operand i) m.memory.size

/-- The program counter is at a whole jump whose first operand has a value that the jump is not
taken for. -/
structure Declines (m : Machine) : Prop where
  inside : m.memory.contains m.pc = true
  whole : m.pc + 2 < m.memory.size
  word : 0 ≤ m.word
  resolves : m.Resolves 1
  declined : m.opcode = 5 ∧ m.value 1 = 0 ∨ m.opcode = 6 ∧ m.value 1 ≠ 0

/-- A step passes over an instruction of three cells, with nothing else done. -/
def GoesOn (m : Machine) : Prop :=
  m.step.result = .ok .running ∧
    ∃ lines, m.step.machine = { m with state := .running, pc := m.pc + 3, trace := lines }

/-- A step trips over a fault, with nothing else done. -/
def Trips (m : Machine) (f : Fault) : Prop :=
  m.step.result = .error f ∧
    ∃ lines, m.step.machine = { m with state := .running, fault := some f, trace := lines }

private theorem first_sourceObjections_of_resolves {m : Machine} {i : Nat} (h : m.Resolves i) :
    first (m.sourceObjections i) = none := by
  rcases h with one | ⟨zero, inside⟩
  · simp [sourceObjections, first, one]
  · simp [sourceObjections, first, zero, inside]

private theorem first_sourceObjections_of_not_resolves {m : Machine} {i : Nat} (h : ¬m.Resolves i) :
    first (m.sourceObjections i) = some (m.unreadable i) := by
  rcases m.digit_cases i with zero | one | more
  · have outside : m.memory.contains (m.operand i) = false :=
      Bool.eq_false_iff.mpr fun inside ↦ h (.inr ⟨zero, inside⟩)
    simp [sourceObjections, first, unreadable, zero, outside]
  · exact absurd (.inl one) h
  · simp [sourceObjections, first, unreadable, more]

variable {m : Machine}

private theorem work_of_declines (h : m.Declines) : m.work = .pass := by
  rcases h.declined with ⟨five, zero⟩ | ⟨six, nonzero⟩
  · simp [work, five, zero]
  · simp [work, six, nonzero]

private theorem operandCount?_of_declines (h : m.Declines) : operandCount? m.opcode = some 2 := by
  rcases h.declined with ⟨five, -⟩ | ⟨six, -⟩
  · rw [five, operandCount?]
  · rw [six, operandCount?]

private theorem first_wordObjections_of_declines (h : m.Declines) :
    first m.wordObjections = none := by
  have whole : ¬m.memory.size ≤ m.pc + 2 := by
    have := h.whole
    omega
  have word : ¬m.word < 0 := by
    have := h.word
    omega
  simp [wordObjections, operandCount?_of_declines h, first, whole, word]

private theorem first_objections_of_declines (h : m.Declines) :
    first m.objections = first (m.sourceObjections 2) := by
  have operands : first m.operandObjections = first (m.sourceObjections 2) := by
    have readable := first_sourceObjections_of_resolves h.resolves
    rcases h.declined with ⟨five, zero⟩ | ⟨six, nonzero⟩
    · have quiet : first (m.jumpObjections (m.value 1 ≠ 0)) = none := by
        simp [jumpObjections, first, zero]
      simp only [operandObjections, five]
      rw [first_append, readable, Option.none_or, first_append, quiet, Option.or_none]
    · have quiet : first (m.jumpObjections (m.value 1 = 0)) = none := by
        simp [jumpObjections, first, nonzero]
      simp only [operandObjections, six]
      rw [first_append, readable, Option.none_or, first_append, quiet, Option.or_none]
  rw [objections, first_cons_of_fails _ (by simp [h.inside]), first_append,
    first_wordObjections_of_declines h, Option.none_or, operands]

/-- A jump that is not taken goes on if its target can be read. -/
theorem goesOn_of_resolves (live : m.Live) (h : m.Declines) (target : m.Resolves 2) :
    m.GoesOn := by
  have clear := (first_objections_of_declines h).trans (first_sourceObjections_of_resolves target)
  rcases m.plan_eq with ⟨f, raised, -⟩ | ⟨o, i, -, code, width, planned⟩
  · cases raised.symm.trans clear
  · have two : o.arity = 2 := by
      have count := operandCount?_of_declines h
      rw [code, operandCount?_code] at count
      exact Option.some.inj count
    obtain ⟨lines, noted⟩ := note_eq m.start i
    rw [GoesOn, step_of_plan_ok live planned, noted, work_of_declines h, width, two]
    exact ⟨rfl, lines, rfl⟩

/-- A jump that is not taken trips if its target cannot be read. -/
theorem trips_of_not_resolves (live : m.Live) (h : m.Declines) (target : ¬m.Resolves 2) :
    m.Trips (m.unreadable 2) := by
  have tripped :=
    (first_objections_of_declines h).trans (first_sourceObjections_of_not_resolves target)
  rcases m.plan_eq with ⟨f, raised, planned⟩ | ⟨o, i, clear, -⟩
  · cases raised.symm.trans tripped
    exact step_of_plan_error live planned
  · cases clear.symm.trans tripped

/-- A jump that is not taken goes on exactly if its target, which it has no use for, can be read; if
not, the machine meets the fault of reading it and is left where it was. -/
theorem declined_jump_goes_on_iff (live : m.Live) (h : m.Declines) :
    (m.GoesOn ↔ m.Resolves 2) ∧ (¬m.Resolves 2 → m.Trips (m.unreadable 2)) := by
  refine ⟨⟨fun on ↦ ?_, goesOn_of_resolves live h⟩, trips_of_not_resolves live h⟩
  refine Decidable.byContradiction fun target ↦ ?_
  cases on.1.symm.trans (trips_of_not_resolves live h target).1

/-- A target behind the program does not matter to a jump that is not taken if it is immediate, and
trips it if it is an address. -/
theorem declined_jump_goes_on_iff_far_target :
    (ofCells [1105, 0, 70, 99] [] false).GoesOn ∧
      (ofCells [105, 0, 70, 99] [] false).Trips (.outOfBounds 70 4) :=
  ⟨(declined_jump_goes_on_iff (by decide)
      ⟨by decide, by decide, by decide, by decide, by decide⟩).1.mpr (by decide),
    (declined_jump_goes_on_iff (by decide)
      ⟨by decide, by decide, by decide, by decide, by decide⟩).2 (by decide)⟩

/-- The digit of a target that is not used can end a step with a fault. -/
theorem declined_jump_trips_on_unused_digit :
    (ofCells [2105, 0, 7, 99] [] false).Live ∧ (ofCells [2105, 0, 7, 99] [] false).Declines ∧
      (ofCells [2105, 0, 7, 99] [] false).step.result =
        .error (.badMode 2 (some 0) Fault.unknownMode) ∧
      ¬(ofCells [2105, 0, 7, 99] [] false).GoesOn := by
  have declines : (ofCells [2105, 0, 7, 99] [] false).Declines :=
    ⟨by decide, by decide, by decide, by decide, by decide⟩
  have tripped := trips_of_not_resolves (by decide) declines (by decide)
  refine ⟨by decide, declines, tripped.1, fun on ↦ ?_⟩
  cases on.1.symm.trans tripped.1

end DecimalMachine.Machine
