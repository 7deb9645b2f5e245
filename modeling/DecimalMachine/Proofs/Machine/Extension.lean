import DecimalMachine.Proofs.Machine.Effect
import DecimalMachine.Proofs.Machine.Passage
import DecimalMachine.Proofs.Packing

/-!
# Cells behind the program

What is appended to a program is out of reach of every instruction that does not fail: each of its
accesses has been checked against the shorter memory. So a run that does not fail makes the same
steps in the longer memory, and leaves the appended cells as they are.
-/

namespace DecimalMachine

/-- The memory with more cells behind its own. -/
def Memory.append (m : Memory) (data : List Int) : Memory := ofList (m.toList ++ data)

/-- The machine with more cells behind its own. -/
def Machine.extend (m : Machine) (data : List Int) : Machine :=
  { m with memory := m.memory.append data }

/-! ### Accesses -/

namespace Memory

variable {m : Memory} {a v : Int}

/-- The appended cells stand behind the others. -/
@[simp] theorem toList_append (m : Memory) (data : List Int) :
    (m.append data).toList = m.toList ++ data :=
  toList_ofList _

private theorem size_append (m : Memory) (data : List Int) :
    (m.append data).size = m.size + data.length := by
  rw [← length_toList, toList_append, List.length_append, length_toList]

private theorem contains_append (data : List Int) (inside : m.contains a = true) :
    (m.append data).contains a = true := by
  rw [contains_iff] at inside ⊢
  rw [size_append]
  omega

private theorem get?_append (data : List Int) (cell : m.get? a = some v) :
    (m.append data).get? a = some v := by
  rw [get?_eq] at cell ⊢
  split at cell
  · next nonneg =>
    have inside := (List.getElem?_eq_some_iff.mp cell).1
    rw [if_pos nonneg, toList_append, List.getElem?_append_left inside, cell]
  · cases cell

private theorem read_append (data : List Int) (cell : m.read a = .ok v) :
    (m.append data).read a = .ok v := by
  rw [read_eq_ok_iff] at cell ⊢
  exact get?_append data cell

private theorem set_append (data : List Int) (v : Int) (inside : m.contains a = true) :
    (m.append data).set a v = (m.set a v).append data := by
  obtain ⟨nonneg, below⟩ := contains_iff.mp inside
  apply ext_toList
  rw [toList_set v nonneg, toList_append, toList_append, toList_set v nonneg,
    List.set_append_left _ _ (by rw [length_toList]; omega)]

private theorem Holds.append {xs : List Int} (data : List Int) (held : m.Holds a xs) :
    (m.append data).Holds a xs := by
  obtain ⟨before, after, cells, place⟩ := held
  refine ⟨before, after ++ data, ?_, place⟩
  rw [toList_append, cells]
  simp

end Memory

/-! ### Instructions -/

namespace Instruction

variable {m : Memory} {i : Instruction}

/-- What is decoded is decoded all the same. -/
theorem decode_append {pc : Int} (data : List Int) (decoded : decode m pc = .ok i) :
    decode (m.append data) pc = .ok i := by
  rw [decode_eq_ok_iff] at decoded ⊢
  obtain ⟨address, stands⟩ := decoded
  exact ⟨address, { stands with held := stands.held.append data }⟩

private theorem source_append {k : Nat} {v : Int} (data : List Int) (reads : i.source m k = .ok v) :
    i.source (m.append data) k = .ok v := by
  unfold source at reads ⊢
  split
  · next position =>
    rw [position] at reads
    exact Memory.read_append data reads
  · next immediate =>
    rw [immediate] at reads
    exact reads
  · next unassigned =>
    rw [unassigned] at reads
    cases reads

private theorem destination_append {k : Nat} {a : Int} (data : List Int)
    (writes : i.destination m k = .ok a) : i.destination (m.append data) k = .ok a := by
  rw [destination_eq_ok_iff] at writes ⊢
  obtain ⟨position, inside, address⟩ := writes
  exact ⟨position, Memory.contains_append data inside, address⟩

private theorem combine_append {f : Int → Int → Int} {e : Effect Int} (data : List Int)
    (h : i.combine m f = .ok e) : i.combine (m.append data) f = .ok e := by
  obtain ⟨x, y, a, hx, hy, ha, rfl⟩ := combine_eq_ok h
  rw [combine, source_append data hx, source_append data hy, destination_append data ha]
  rfl

private theorem branch_append {test : Int → Bool} {e : Effect Int} (data : List Int)
    (h : i.branch m test = .ok e) : i.branch (m.append data) test = .ok e := by
  obtain ⟨x, t, hx, ht, outcome⟩ := branch_eq_ok h
  rw [branch, source_append data hx, source_append data ht]
  show (if test x then if t < 0 then _ else _ else _) = _
  rcases outcome with ⟨taken, nonneg, rfl⟩ | ⟨passed, rfl⟩
  · rw [if_pos taken, if_neg (Int.not_lt.mpr nonneg)]
  · rw [passed]
    rfl

private theorem effect_memory_append {inputs : List Int} {e : Effect Int} (data : List Int)
    (h : i.effect m inputs = .ok e) : i.effect (m.append data) inputs = .ok e := by
  unfold effect at h ⊢
  cases operation : i.operation with
  | add | multiply | lessThan | equals =>
    rw [operation] at h
    exact combine_append data h
  | jumpIfTrue | jumpIfFalse =>
    rw [operation] at h
    exact branch_append data h
  | input =>
    rw [operation] at h
    cases inputs with
    | nil => exact h
    | cons v rest =>
      cases writes : i.destination m 0 with
      | error f => simp [writes, Except.map] at h
      | ok a =>
        simp only [writes] at h
        simp only [destination_append data writes]
        exact h
  | output =>
    rw [operation] at h
    cases reads : i.source m 0 with
    | error f => simp [reads, Except.map] at h
    | ok v =>
      simp only [reads] at h
      simp only [source_append data reads]
      exact h
  | halt =>
    rw [operation] at h
    exact h

end Instruction

/-! ### Steps and runs -/

namespace Machine

variable {m n : Machine} {s : State}

private theorem plan_extend {i : Instruction} {e : Effect Int} (data : List Int)
    (planned : m.plan = .ok (i, e)) : (m.extend data).plan = .ok (i, e) := by
  rw [plan_eq_ok_iff] at planned ⊢
  obtain ⟨inside, decoded, effect⟩ := planned
  exact ⟨Memory.contains_append data inside, Instruction.decode_append data decoded,
    Instruction.effect_memory_append data effect⟩

private theorem apply_extend {i : Instruction} {inputs : List Int} {e : Effect Int} (width : Nat)
    (data : List Int) (warranted : i.Warrants m.memory inputs e) :
    (m.extend data).apply width e = (m.apply width e).extend data := by
  cases e with
  | store a v => simp only [apply, extend, Memory.set_append data v warranted.2]
  | take a v => simp only [apply, extend, Memory.set_append data v warranted.2.1]
  | _ => rfl

private theorem memory_note_start (m : Machine) (i : Instruction) :
    (m.start.note i).memory = m.memory := by
  obtain ⟨lines, noted⟩ := note_eq m.start i
  rw [noted]
  rfl

private theorem note_start_extend (m : Machine) (i : Instruction) (data : List Int) :
    (m.extend data).start.note i = (m.start.note i).extend data := by
  unfold note
  cases tracing : m.tracing with
  | false => simp [start, extend, tracing]
  | true => simp [start, extend, tracing]

/-- A step that does not fail is the same step. -/
theorem step_extend (data : List Int) (h : m.step.result = .ok s) :
    (m.extend data).step = { m.step with machine := m.step.machine.extend data } := by
  by_cases live : m.Live
  · have live' : (m.extend data).Live := live
    cases planned : m.plan with
    | error f =>
      rw [(step_of_plan_error live planned).1] at h
      cases h
    | ok p =>
      obtain ⟨i, e⟩ := p
      have warranted := Instruction.warrants_of_effect (plan_eq_ok_iff.mp planned).2.2
      rw [← memory_note_start m i] at warranted
      rw [step_of_plan_ok live planned, step_of_plan_ok live' (plan_extend data planned),
        note_start_extend, apply_extend i.width data warranted]
      rfl
  · have dead : ¬(m.extend data).Live := live
    rw [step_of_not_live live, step_of_not_live dead]
    rfl

private theorem passes_extend {events : Array Event} (data : List Int)
    (passes : m.Passes events n) :
    (m.extend data).Passes events (n.extend data) := by
  induction passes with
  | refl => exact .refl _
  | @head m n events completed _ ih =>
    have same := step_extend data completed
    have result : (m.extend data).step.result = .ok .running := by rw [same, completed]
    have machine : (m.extend data).step.machine = m.step.machine.extend data := by rw [same]
    have reported : (m.extend data).step.events = m.step.events := by rw [same]
    rw [← reported]
    exact .head result (machine ▸ ih)

/-- A run that does not fail makes the same steps if cells are appended. -/
theorem run_extend {allowance : Nat} {r : Response State} (data : List Int)
    (ran : m.run allowance = some r) (ok : r.result = .ok s) :
    ∃ allowance' q, (m.extend data).run allowance' = some q ∧ q.result = .ok s ∧
      q.machine = r.machine.extend data := by
  obtain ⟨events, n, passes, last, rfl⟩ := passes_of_run ran
  have same := step_extend data ok
  have last' : (n.extend data).step.result ≠ .ok .running := by
    rw [same]
    exact last
  obtain ⟨allowance', ran'⟩ := run_of_passes (passes_extend data passes) last'
  refine ⟨allowance', _, ran', ?_, ?_⟩
  · show (n.extend data).step.result = _
    rw [same]
    exact ok
  · show (n.extend data).step.machine = _
    rw [same]
    rfl

/-- Cells that are appended to a program do not show in a run that ends without a fault: the longer
program gives the same answer and leaves the same machine, with the memory that the shorter one
leaves and, behind it, the appended cells as they were. -/
theorem run_leaves_appended_cells {cells inputs : List Int} {tracing : Bool} {allowance : Nat}
    {r : Response State} (data : List Int)
    (ran : (ofCells cells inputs tracing).run allowance = some r) (ok : r.result = .ok s) :
    ∃ allowance' q, (ofCells (cells ++ data) inputs tracing).run allowance' = some q ∧
      q.result = .ok s ∧ q.machine.memory.toList = r.machine.memory.toList ++ data ∧
        q.machine = { r.machine with memory := q.machine.memory } := by
  have longer : ofCells (cells ++ data) inputs tracing =
      (ofCells cells inputs tracing).extend data := by
    simp [ofCells, extend, Memory.append]
  obtain ⟨allowance', q, ran', ok', left⟩ := run_extend data ran ok
  rw [longer]
  refine ⟨allowance', q, ran', ok', ?_, ?_⟩
  · rw [left]
    exact Memory.toList_append _ data
  · rw [left]
    rfl

/-- A program that overwrites its own second instruction, with two cells behind it, reads an input
and waits for another. -/
theorem run_leaves_appended_cells_selfmade :
    ∃ r allowance q,
      (ofCells [1101, 1, 2, 4, 99, 9, 1105, 1, 4, 0] [7] false).run 9 = some r ∧
        r.result = .ok .waitingForInput ∧
        (ofCells ([1101, 1, 2, 4, 99, 9, 1105, 1, 4, 0] ++ [99, -5]) [7] false).run allowance =
          some q ∧
        q.result = .ok .waitingForInput ∧
        q.machine.memory.toList = [1101, 1, 2, 4, 3, 9, 1105, 1, 4, 7] ++ [99, -5] ∧
        q.machine.pc = 4 := by
  have ran : (ofCells [1101, 1, 2, 4, 99, 9, 1105, 1, 4, 0] [7] false).run 9 = some _ := rfl
  obtain ⟨allowance, q, ran', ok, memory, left⟩ :=
    run_leaves_appended_cells (s := .waitingForInput) [99, -5] ran rfl
  refine ⟨_, allowance, q, ran, rfl, ran', ok, memory, ?_⟩
  rw [left]
  rfl

end Machine
end DecimalMachine
