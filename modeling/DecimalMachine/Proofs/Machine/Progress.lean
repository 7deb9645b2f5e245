import DecimalMachine.Proofs.Machine.Invariant
import DecimalMachine.Proofs.Machine.Semantics
import DecimalMachine.Proofs.Packing

/-!
# Progress between jumps

Only a jump takes the program counter back. Every other instruction that completes passes its own
cells, of which there are at least two, and all of them lie inside the program, whatever the
instruction has overwritten. So the cells that are left behind the counter bound the number of steps
that can be made without a jump, and a run that takes none comes to its end.
-/

namespace DecimalMachine

namespace Machine

/-- The next step takes a jump: it completes, and it is a jump whose first operand is one that the
jump is taken for. -/
def Jumps (m : Machine) : Prop :=
  m.step.result = .ok .running ∧
    (m.opcode = 5 ∧ m.value 1 ≠ 0 ∨ m.opcode = 6 ∧ m.value 1 = 0)

/-- Whether a jump is taken is decided by making the step. -/
instance (m : Machine) : Decidable m.Jumps :=
  inferInstanceAs <| Decidable <|
    m.step.result = .ok .running ∧
      (m.opcode = 5 ∧ m.value 1 ≠ 0 ∨ m.opcode = 6 ∧ m.value 1 = 0)

/-- The second machine is so many steps further on than the first. -/
structure Strides (m : Machine) (k : Nat) (n : Machine) : Prop where
  /-- Every step passes at least two cells. -/
  forward : m.pc + 2 * k ≤ n.pc
  /-- A program counter that has moved is not beyond the end of the program. -/
  within : n.pc ≤ m.pc ∨ n.pc ≤ n.memory.size
  size : n.memory.size = m.memory.size

end Machine

/-- The exchange does not lead astray: a step that leaves the machine running and takes no jump, a
look at a cell, or an input that is not waited for. -/
def Exchange.Straight (e : Exchange) : Prop :=
  match e.call with
  | .step => e.response.result = .ok (.state .running) ∧ ¬e.before.Jumps
  | .peek _ => True
  | .feed _ => e.before.state ≠ .waitingForInput
  | .run | .poke _ _ | .moveTo _ => False

/-- The number of steps among exchanges. -/
def stepCount (es : List Exchange) : Nat := es.countP fun e ↦ e.call = .step

private theorem Instruction.Stands.within {i : Instruction} {m : Memory} (stands : i.Stands m) :
    i.address + i.width ≤ m.size := by
  have enough := (Memory.holds_cons_iff.mp stands.held).2.1
  rw [width]
  omega

private theorem Instruction.Stands.two_le_width {i : Instruction} {m : Memory} (stands : i.Stands m)
    (operands : i.operation ≠ .halt) : 2 ≤ i.width := by
  have arity : 1 ≤ i.operation.arity := by
    cases named : i.operation with
    | halt => exact absurd named operands
    | _ => decide
  rw [width, stands.complete]
  omega

namespace Machine

/-! ### One step -/

private theorem work_eq_jump {m : Machine} {t : Int} (h : m.work = .jump t) :
    m.opcode = 5 ∧ m.value 1 ≠ 0 ∨ m.opcode = 6 ∧ m.value 1 = 0 := by
  unfold work at h
  split at h
  · cases h
  · cases h
  · split at h <;> cases h
  · cases h
  · next five =>
    split at h
    · next taken => exact .inl ⟨five, taken⟩
    · cases h
  · next six =>
    split at h
    · next taken => exact .inr ⟨six, taken⟩
    · cases h
  · cases h
  · cases h
  · cases h

private theorem jumps_of_plan {m : Machine} {i : Instruction} {t : Int}
    (completed : m.step.result = .ok .running) (h : m.plan = .ok (i, .jump t)) : m.Jumps := by
  rcases m.plan_eq with ⟨f, -, failed⟩ | ⟨o, j, -, -, -, planned⟩
  · cases h.symm.trans failed
  · have same := Except.ok.inj (planned.symm.trans h)
    exact ⟨completed, work_eq_jump (Prod.mk.inj same).2⟩

private theorem pc_apply (m : Machine) (width : Nat) (e : Effect Int) :
    (m.apply width e).pc =
      match e with
      | .jump t => t
      | .suspend | .halt => m.pc
      | _ => m.pc + width := by
  cases e <;> rfl

/-- No effect makes the program longer or shorter. -/
@[simp] theorem size_apply (m : Machine) (width : Nat) (e : Effect Int) :
    (m.apply width e).memory.size = m.memory.size := by
  cases e <;> simp [apply]

/-- A step that completes and takes no jump passes its instruction, which is inside the program and
leaves the program as long as it is. -/
theorem strides_of_step {m : Machine} (completed : m.step.result = .ok .running)
    (straight : ¬m.Jumps) : m.Strides 1 m.step.machine := by
  have live := (live_of_running completed).1
  have running := (step_ok completed).1
  rcases m.step_cases with ⟨dead, -⟩ | ⟨-, f, lines, failed, -⟩ | ⟨-, i, e, lines, planned, left⟩
  · exact absurd live dead
  · rw [(step_of_plan_error live failed).1] at completed
    cases completed
  · obtain ⟨-, decoded, effect⟩ := plan_eq_ok_iff.mp planned
    obtain ⟨address, stands⟩ := Instruction.decode_eq_ok_iff.mp decoded
    rw [left, state_apply] at running
    have moved : m.step.machine.pc = m.pc + i.width := by
      rw [left, pc_apply]
      cases e with
      | jump t => exact absurd (jumps_of_plan completed planned) straight
      | suspend | halt => cases running
      | _ => rfl
    have operands : i.operation ≠ .halt := by
      intro halt
      simp only [Instruction.effect, halt, Except.ok.injEq] at effect
      subst effect
      cases running
    have size : m.step.machine.memory.size = m.memory.size := by
      rw [left, size_apply]
      rfl
    have wide := stands.two_le_width operands
    have within := stands.within
    exact ⟨by omega, .inr (by omega), size⟩

/-! ### Many steps -/

private theorem Strides.refl (m : Machine) : m.Strides 0 m := ⟨by simp, .inl (Int.le_refl _), rfl⟩

private theorem Strides.trans {m n l : Machine} {j k : Nat} (first : m.Strides j n)
    (second : n.Strides k l) : m.Strides (j + k) l where
  forward := by
    have := first.forward
    have := second.forward
    omega
  within := by
    have := first.within
    have := second.within
    have := second.size
    omega
  size := second.size.trans first.size

private theorem straight_step_iff {m : Machine} :
    Exchange.Straight ⟨m, .step, m.step.map .state⟩ ↔
      m.step.result = .ok .running ∧ ¬m.Jumps :=
  and_congr_left' (map_state_inj (y := .ok .running))

private theorem strides_of_straight {m : Machine} {c : Call} {r : Response Reply}
    (answers : m.Answers c r)
    (straight : Exchange.Straight ⟨m, c, r⟩) :
    m.Strides (if c = .step then 1 else 0) r.machine := by
  cases c with
  | step =>
    rw [answers_step_iff.mp answers] at straight ⊢
    obtain ⟨completed, unbent⟩ := straight_step_iff.mp straight
    exact strides_of_step completed unbent
  | peek a =>
    rw [answers_peek_iff.mp answers]
    exact .refl m
  | feed v =>
    by_cases live : m.Live
    · obtain ⟨allowance, q, fed, rfl⟩ := answers_feed_iff.mp answers
      rw [feed_of_not_waiting allowance v live straight] at fed
      cases fed
      exact ⟨by simp [Response.map, supply], .inl (Int.le_refl _), rfl⟩
    · rw [(answers_of_not_live live rfl).mp answers]
      exact .refl m
  | run => cases straight
  | poke => cases straight
  | moveTo => cases straight

/-- Calls that do not lead astray lead on by as many steps as there are among them. -/
theorem strides_of_history {m n : Machine} {es : List Exchange} (calls : History m es n)
    (straight : ∀ e ∈ es, e.Straight) : m.Strides (stepCount es) n := by
  induction calls with
  | nil m => exact .refl m
  | @cons m n c r es answers _ ih =>
    have first := strides_of_straight answers (straight _ List.mem_cons_self)
    have second := ih fun e he ↦ straight e (List.mem_cons_of_mem _ he)
    have count : stepCount (⟨m, c, r⟩ :: es) = (if c = .step then 1 else 0) + stepCount es := by
      simp only [stepCount, List.countP_cons, decide_eq_true_eq]
      rw [Nat.add_comm]
    rw [count]
    exact first.trans second

/-! ### Whole runs -/

private theorem passes_of_straight {m n : Machine} {es : List Exchange} (calls : History m es n)
    (steps : ∀ e ∈ es, e.call = .step ∧ e.Straight) : ∃ events, m.Passes events n := by
  induction calls with
  | nil m => exact ⟨#[], .refl m⟩
  | @cons m n c r es answers _ ih =>
    obtain ⟨⟨rfl, straight⟩, others⟩ := List.forall_mem_cons.mp steps
    obtain rfl := answers_step_iff.mp answers
    obtain ⟨events, passes⟩ := ih others
    exact ⟨_, .head (straight_step_iff.mp straight).1 passes⟩

/-- Without a jump there are no more steps than there are pairs of cells to pass, before one that does
not leave the machine running. -/
theorem exists_last_of_straight {m : Machine} (bound : Nat)
    (few : m.memory.size - m.pc < 2 * (bound + 1 : Nat))
    (straight : ∀ events n, m.Passes events n → ¬n.Jumps) :
    ∃ es n, History m es n ∧ (∀ e ∈ es, e.call = .step ∧ e.Straight) ∧ es.length ≤ bound ∧
      n.step.result ≠ .ok .running := by
  -- Every step that completes leaves two cells less to pass.
  induction bound generalizing m with
  | zero =>
    refine ⟨[], m, .nil m, List.forall_mem_nil _, Nat.le_refl 0, fun completed ↦ ?_⟩
    obtain ⟨forward, within, size⟩ := strides_of_step completed (straight _ m (.refl m))
    omega
  | succ bound ih =>
    by_cases completed : m.step.result = .ok .running
    · have unbent := straight _ m (.refl m)
      obtain ⟨forward, within, size⟩ := strides_of_step completed unbent
      obtain ⟨es, n, calls, steps, short, last⟩ := ih (m := m.step.machine) (by omega)
        fun events n passes ↦ straight _ n (.head completed passes)
      have first : Exchange.Straight ⟨m, .step, m.step.map .state⟩ :=
        straight_step_iff.mpr ⟨completed, unbent⟩
      have all : History m (⟨m, .step, m.step.map .state⟩ :: es) n :=
        .cons (answers_step_iff.mpr rfl) calls
      exact ⟨_, n, all, List.forall_mem_cons.mpr ⟨⟨rfl, first⟩, steps⟩, Nat.succ_le_succ short,
        last⟩
    · exact ⟨[], m, .nil m, List.forall_mem_nil _, Nat.zero_le _, completed⟩

/-- As long as no jump is taken, every step that leaves the machine running moves the program counter
on by at least two cells and keeps it inside the program or at its end. So there are at most half as
many such steps as there are cells behind the counter, whatever is looked at or handed over between
them; and a run that takes no jump stops, behind at most so many completed instructions, with one that
halts, waits or faults. -/
theorem progress_between_jumps (m : Machine) :
    (∀ es n, History m es n → (∀ e ∈ es, e.Straight) → 1 ≤ stepCount es →
        m.pc + 2 * stepCount es ≤ n.pc ∧ n.pc ≤ n.memory.size ∧ n.memory.size = m.memory.size ∧
          stepCount es ≤ (m.memory.size - m.pc) / 2) ∧
      ((∀ events n, m.Passes events n → ¬n.Jumps) →
        ∃ es n, History m es n ∧ (∀ e ∈ es, e.call = .step ∧ e.Straight) ∧
          es.length ≤ ((m.memory.size - m.pc) / 2).toNat ∧
          (n.step.result = .ok .terminated ∨ n.step.result = .ok .waitingForInput ∨
            ∃ f, n.step.result = .error f) ∧
          ∃ allowance r, m.run allowance = some r ∧ r.result = n.step.result ∧
            r.machine = n.step.machine) := by
  constructor
  · intro es n calls straight some
    obtain ⟨forward, within, size⟩ := strides_of_history calls straight
    refine ⟨forward, by omega, size, by omega⟩
  · intro straight
    obtain ⟨es, n, calls, steps, few, last⟩ :=
      exists_last_of_straight ((m.memory.size - m.pc) / 2).toNat (by omega) straight
    obtain ⟨events, passes⟩ := passes_of_straight calls steps
    obtain ⟨allowance, ran⟩ := run_of_passes passes last
    refine ⟨es, n, calls, steps, few, ?_, allowance, _, ran, rfl, rfl⟩
    cases result : n.step.result with
    | error f => exact .inr (.inr ⟨f, rfl⟩)
    | ok s =>
      have other : s ≠ .running := fun running ↦ last (running ▸ result)
      rcases stopped_cases result other with rfl | rfl
      · exact .inl rfl
      · exact .inr (.inl rfl)

/-- A program that makes an input of its second instruction is fed and looked at between its steps, and
declines a jump in front of its last cell. Another puts out a value and halts. -/
theorem progress_between_jumps_selfmade :
    (∃ es n, History (ofCells [1101, 1, 2, 4, 99, 9, 1105, 0, 4, 99] [] false) es n ∧
      es.map (·.call) = [.step, .feed 7, .step, .peek 20, .step] ∧ (∀ e ∈ es, e.Straight) ∧
      stepCount es = 3 ∧ 0 + 2 * 3 ≤ n.pc ∧ n.pc ≤ n.memory.size ∧ n.memory.size = 10) ∧
      (∀ events n, (ofCells [104, 7, 99] [] false).Passes events n → ¬n.Jumps) ∧
      ∃ es n, History (ofCells [104, 7, 99] [] false) es n ∧ es.length ≤ 1 ∧
        ∃ allowance r, (ofCells [104, 7, 99] [] false).run allowance = some r ∧
          r.result = n.step.result := by
  have calls : History (ofCells [1101, 1, 2, 4, 99, 9, 1105, 0, 4, 99] [] false) _ _ :=
    .cons (c := .step) ⟨0, rfl⟩ (.cons (c := .feed 7) ⟨0, rfl⟩ (.cons (c := .step) ⟨0, rfl⟩
      (.cons (c := .peek 20) ⟨0, rfl⟩ (.cons (c := .step) ⟨0, rfl⟩ (.nil _)))))
  obtain ⟨es, n, calls, made, straight, count⟩ : ∃ es n,
      History (ofCells [1101, 1, 2, 4, 99, 9, 1105, 0, 4, 99] [] false) es n ∧
        es.map (·.call) = [.step, .feed 7, .step, .peek 20, .step] ∧ (∀ e ∈ es, e.Straight) ∧
          stepCount es = 3 := by
    refine ⟨_, _, calls, rfl, ?_, rfl⟩
    simp only [List.forall_mem_cons]
    exact ⟨⟨rfl, by decide⟩, nofun, ⟨rfl, by decide⟩, trivial, ⟨rfl, by decide⟩,
      List.forall_mem_nil _⟩
  have quiet (events : Array Event) (n : Machine)
      (passes : (ofCells [104, 7, 99] [] false).Passes events n) : ¬n.Jumps := by
    rcases passes with _ | ⟨-, _ | ⟨halted, -⟩⟩
    · decide
    · decide
    · exact absurd halted (by decide)
  obtain ⟨forward, within, size, -⟩ := (progress_between_jumps _).1 es n calls straight (by omega)
  obtain ⟨es', n', calls', -, few, -, allowance, r, ran, answer, -⟩ :=
    (progress_between_jumps _).2 quiet
  rw [count] at forward
  exact ⟨⟨es, n, calls, made, straight, count, forward, within, size⟩, quiet, es', n', calls', few,
    allowance, r, ran, answer⟩

end Machine
end DecimalMachine
