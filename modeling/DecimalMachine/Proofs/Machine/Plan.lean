import DecimalMachine.Machine.Step

/-!
# What a step is about to do

A step is decided before anything changes. The plan of a machine is the instruction at its program
counter with the effect it will have, or the fault that the step will meet; it depends on memory,
program counter and inputs alone. A live machine carries its plan out, and any other machine stays
as it is.
-/

namespace DecimalMachine.Machine

/-- A machine that calls still have an effect on: it has neither halted nor met a fault. -/
def Live (m : Machine) : Prop := m.fault = none ∧ m.state ≠ .terminated

/-- Being live is decided by looking at fault and state. -/
instance (m : Machine) : Decidable m.Live :=
  inferInstanceAs (Decidable (m.fault = none ∧ m.state ≠ .terminated))

/-- The next instruction with its effect, or the fault in the way of it. -/
def plan (m : Machine) : Except Fault (Instruction × Effect Int) :=
  if m.memory.contains m.pc then
    match Instruction.decode m.memory m.pc with
    | .error f => .error f
    | .ok i =>
      match i.effect m.memory m.inputs with
      | .error f => .error f
      | .ok e => .ok (i, e)
  else .error m.ranOff

/-- A plan has an instruction that decodes, with its effect. -/
theorem plan_eq_ok_iff {m : Machine} {i : Instruction} {e : Effect Int} :
    m.plan = .ok (i, e) ↔
      m.memory.contains m.pc = true ∧ Instruction.decode m.memory m.pc = .ok i ∧
        i.effect m.memory m.inputs = .ok e := by
  unfold plan
  split
  · next inside =>
    cases hd : Instruction.decode m.memory m.pc with
    | error f => simp
    | ok j =>
      cases he : j.effect m.memory m.inputs with
      | error f =>
        simp only [he, reduceCtorEq, inside, true_and, false_iff]
        rintro ⟨hj, hi⟩
        cases hj
        cases he.symm.trans hi
      | ok d =>
        simp only [he, Except.ok.injEq, Prod.mk.injEq, inside, true_and]
        constructor
        · rintro ⟨rfl, rfl⟩
          exact ⟨rfl, he⟩
        · rintro ⟨rfl, hi⟩
          exact ⟨rfl, Except.ok.inj (he.symm.trans hi)⟩
  · next outside => simp [outside]

/-! ### Carrying a plan out -/

/-- What a machine that is not live answers: its fault, or that it has halted. -/
def standing (m : Machine) : Except Fault State :=
  match m.fault with
  | some f => .error f
  | none => .ok m.state

/-- A machine that is not live has halted or keeps its fault. -/
theorem standing_of_not_live {m : Machine} (dead : ¬m.Live) :
    m.fault = none ∧ m.state = .terminated ∧ m.standing = .ok .terminated ∨
      ∃ f, m.fault = some f ∧ m.standing = .error f := by
  unfold standing
  cases hf : m.fault with
  | some f => exact .inr ⟨f, rfl, rfl⟩
  | none =>
    have ht : m.state = .terminated := Decidable.byContradiction fun hs ↦ dead ⟨hf, hs⟩
    exact .inl ⟨rfl, ht, congrArg Except.ok ht⟩

/-- A machine that is not live stays as it is, and says why. -/
theorem step_of_not_live {m : Machine} (dead : ¬m.Live) : m.step = m.unchanged m.standing := by
  rcases standing_of_not_live dead with ⟨hf, ht, hs⟩ | ⟨f, hf, hs⟩
  · simp only [step, hf, ht, hs, if_true]
  · simp only [step, hf, hs]

/-- Noting an instruction changes nothing but the trace. -/
theorem note_eq (m : Machine) (i : Instruction) :
    ∃ lines, m.note i = { m with trace := lines } := by
  unfold note
  split
  · exact ⟨_, rfl⟩
  · exact ⟨_, rfl⟩

/-- An effect that can be had is had in full. -/
theorem step_of_plan_ok {m : Machine} {i : Instruction} {e : Effect Int} (live : m.Live)
    (h : m.plan = .ok (i, e)) :
    m.step =
      ⟨.ok ((m.start.note i).apply i.width e).state, (m.start.note i).apply i.width e,
        m.startEvents ++ (m.start.noteEvents i ++ e.events m.pc)⟩ := by
  obtain ⟨inside, hd, he⟩ := plan_eq_ok_iff.mp h
  have hd' : Instruction.decode m.start.memory m.start.pc = .ok i := hd
  have he' : i.effect m.start.memory m.start.inputs = .ok e := he
  simp only [step, live.1, if_neg live.2, inside, if_true, cycle, hd', he']
  rfl

/-- A fault in the way is kept, and apart from the trace nothing else changes but that the machine
has started. -/
theorem step_of_plan_error {m : Machine} {f : Fault} (live : m.Live) (h : m.plan = .error f) :
    m.step.result = .error f ∧
      ∃ lines, m.step.machine = { m.start with fault := some f, trace := lines } := by
  unfold plan at h
  split at h
  · next inside =>
    cases hd : Instruction.decode m.memory m.pc with
    | error g =>
      simp only [hd, Except.error.injEq] at h
      subst h
      have hd' : Instruction.decode m.start.memory m.start.pc = .error g := hd
      simp only [step, live.1, if_neg live.2, inside, if_true, cycle, hd', faultWith]
      exact ⟨trivial, m.trace, rfl⟩
    | ok i =>
      cases he : i.effect m.memory m.inputs with
      | ok e => simp only [hd, he, reduceCtorEq] at h
      | error g =>
        simp only [hd, he, Except.error.injEq] at h
        subst h
        have hd' : Instruction.decode m.start.memory m.start.pc = .ok i := hd
        have he' : i.effect m.start.memory m.start.inputs = .error g := he
        obtain ⟨lines, hn⟩ := note_eq m.start i
        simp only [step, live.1, if_neg live.2, inside, if_true, cycle, hd', he', faultWith, hn]
        exact ⟨trivial, lines, rfl⟩
  · next outside =>
    simp only [Except.error.injEq] at h
    subst h
    simp only [step, live.1, if_neg live.2, outside, Bool.false_eq_true, if_false, faultWith]
    exact ⟨trivial, m.trace, rfl⟩

/-! ### States after an effect -/

/-- Only suspending and halting change the state. -/
theorem state_apply (m : Machine) (width : Nat) (e : Effect Int) :
    (m.apply width e).state =
      match e with
      | .suspend => .waitingForInput
      | .halt => .terminated
      | _ => m.state := by
  cases e <;> rfl

/-- No effect brings a fault. -/
@[simp] theorem fault_apply (m : Machine) (width : Nat) (e : Effect Int) :
    (m.apply width e).fault = m.fault := by
  cases e <;> rfl

/-- No effect touches the trace. -/
@[simp] theorem trace_apply (m : Machine) (width : Nat) (e : Effect Int) :
    (m.apply width e).trace = m.trace := by
  cases e <;> rfl

/-- A machine that does not note its instructions keeps its trace in a step. -/
theorem trace_step {m : Machine} (quiet : m.tracing = false) : m.step.machine.trace = m.trace := by
  have silent (i : Instruction) : m.start.note i = m.start := by
    rw [note, if_neg]
    rw [start, quiet]
    exact Bool.false_ne_true
  by_cases live : m.Live
  · simp only [step, live.1, if_neg live.2]
    split
    · unfold cycle
      split
      · rfl
      · next i _ =>
        simp only [silent]
        split
        · rfl
        · exact trace_apply m.start i.width _
    · rfl
  · rw [step_of_not_live live, machine_unchanged]

/-! ### What a step can do -/

private theorem trace_prefix_note (m : Machine) (i : Instruction) :
    m.trace.toList <+: (m.note i).trace.toList := by
  unfold note
  split
  · simp
  · exact List.prefix_refl _

/-- A step only adds to the trace. -/
theorem trace_prefix_step (m : Machine) : m.trace.toList <+: m.step.machine.trace.toList := by
  by_cases live : m.Live
  · simp only [step, live.1, if_neg live.2]
    split
    · unfold cycle
      split
      · exact List.prefix_refl _
      · next i _ =>
        split
        · exact trace_prefix_note m.start i
        · rw [trace_apply]
          exact trace_prefix_note m.start i
    · exact List.prefix_refl _
  · rw [step_of_not_live live]
    exact List.prefix_refl _

/-- All that a step can do: leave a machine alone that is not live, keep the fault in the way of the
plan, or have the effect that is planned. -/
theorem step_cases (m : Machine) :
    (¬m.Live ∧ m.step.machine = m) ∨
      (m.Live ∧ ∃ f lines, m.plan = .error f ∧
        m.step.machine = { m.start with fault := some f, trace := lines }) ∨
      m.Live ∧ ∃ i e lines, m.plan = .ok (i, e) ∧
        m.step.machine = ({ m.start with trace := lines } : Machine).apply i.width e := by
  by_cases live : m.Live
  · cases planned : m.plan with
    | error f =>
      obtain ⟨-, lines, left⟩ := step_of_plan_error live planned
      exact .inr (.inl ⟨live, f, lines, rfl, left⟩)
    | ok p =>
      obtain ⟨i, e⟩ := p
      obtain ⟨lines, noted⟩ := note_eq m.start i
      refine .inr (.inr ⟨live, i, e, lines, rfl, ?_⟩)
      rw [step_of_plan_ok live planned, noted]
  · refine .inl ⟨live, ?_⟩
    rw [step_of_not_live live, machine_unchanged]

end DecimalMachine.Machine
