import DecimalMachine.Proofs.Machine.Effect
import DecimalMachine.Proofs.Machine.Passage

/-!
# Inputs that come later

What a run ends with does not depend on whether an input was there from the start or was handed over
after a step. Machines are compared without their traces: an instruction that had to wait for its
input is noted once for every attempt.
-/

namespace DecimalMachine.Machine

/-- The machine without its trace. -/
def bare (m : Machine) : Machine := { m with tracing := false, trace := #[] }

/-- The machine with more inputs behind those it has. -/
def supply (m : Machine) (later : List Int) : Machine := { m with inputs := m.inputs ++ later }

/-- A run of the machine stops with an answer, and leaves a machine that is told without its trace.
-/
def Ends (m : Machine) (answer : Except Fault State) (n : Machine) : Prop :=
  ∃ allowance r, m.run allowance = some r ∧ r.result = answer ∧ r.machine.bare = n

/-- No input more is the machine itself. -/
@[simp] theorem supply_nil (m : Machine) : m.supply [] = m := by
  simp [supply]

/-- Supplies add up. -/
@[simp] theorem supply_supply (m : Machine) (xs ys : List Int) :
    (m.supply xs).supply ys = m.supply (xs ++ ys) := by
  simp [supply]

/-! ### Steps without traces -/

/-- State and fault can be told without the trace. -/
theorem bare_state {m n : Machine} (h : m.bare = n.bare) :
    m.state = n.state ∧ m.fault = n.fault := by
  have hs := congrArg Machine.state h
  have hf := congrArg Machine.fault h
  exact ⟨hs, hf⟩

private theorem bare_carried (m : Machine) (i : Instruction) (e : Effect Int) :
    ((m.start.note i).apply i.width e).bare = m.bare.start.apply i.width e := by
  obtain ⟨lines, hn⟩ := note_eq m.start i
  rw [hn]
  cases e <;> rfl

/-- Machines that differ in their traces alone make the same step. -/
theorem step_congr {m n : Machine} (h : m.bare = n.bare) :
    m.step.result = n.step.result ∧ m.step.machine.bare = n.step.machine.bare := by
  obtain ⟨hs, hf⟩ := bare_state h
  by_cases live : m.Live
  · have live' : n.Live := by rwa [Live, ← hf, ← hs]
    have hp : m.bare.plan = n.bare.plan := congrArg plan h
    change m.plan = n.plan at hp
    cases hm : m.plan with
    | error f =>
      obtain ⟨result, lines, left⟩ := step_of_plan_error live hm
      obtain ⟨result', lines', left'⟩ := step_of_plan_error live' (hp ▸ hm)
      refine ⟨result.trans result'.symm, ?_⟩
      rw [left, left']
      exact congrArg (fun k ↦ { k.start with fault := some f }) h
    | ok p =>
      have after : ((m.start.note p.1).apply p.1.width p.2).bare =
          ((n.start.note p.1).apply p.1.width p.2).bare := by
        rw [bare_carried, bare_carried, h]
      rw [step_of_plan_ok live hm, step_of_plan_ok live' (hp ▸ hm)]
      exact ⟨congrArg Except.ok (bare_state after).1, after⟩
  · have dead : ¬n.Live := by rwa [Live, ← hf, ← hs]
    rw [step_of_not_live live, step_of_not_live dead]
    exact ⟨by simp only [unchanged, standing, hf, hs], h⟩

/-! ### Ends -/

/-- A run ends where a passage comes to a last step. -/
theorem ends_iff {m n : Machine} {answer : Except Fault State} :
    m.Ends answer n ↔
      ∃ events k, m.Passes events k ∧ k.step.result ≠ .ok .running ∧ k.step.result = answer ∧
        k.step.machine.bare = n := by
  constructor
  · rintro ⟨allowance, r, ran, rfl, rfl⟩
    obtain ⟨events, k, passes, last, rfl⟩ := run_iff.mp ⟨allowance, ran⟩
    exact ⟨events, k, passes, last, rfl, rfl⟩
  · rintro ⟨events, k, passes, last, rfl, rfl⟩
    obtain ⟨allowance, ran⟩ := run_iff.mpr ⟨events, k, passes, last, rfl⟩
    exact ⟨allowance, _, ran, rfl, rfl⟩

private theorem ends_step {m n : Machine} {answer : Except Fault State}
    (h : m.step.result = .ok .running) : m.Ends answer n ↔ m.step.machine.Ends answer n := by
  rw [ends_iff, ends_iff]
  constructor
  · rintro ⟨events, k, passes, last, he⟩
    cases passes with
    | refl => exact absurd h last
    | head _ rest => exact ⟨_, k, rest, last, he⟩
  · rintro ⟨events, k, passes, last, he⟩
    exact ⟨_, k, .head h passes, last, he⟩

/-- A step that does not leave the machine running is its end. -/
theorem ends_last {m n : Machine} {answer : Except Fault State}
    (h : m.step.result ≠ .ok .running) :
    m.Ends answer n ↔ m.step.result = answer ∧ m.step.machine.bare = n := by
  rw [ends_iff]
  constructor
  · rintro ⟨events, k, passes, last, he⟩
    cases passes with
    | refl => exact he
    | head running rest => exact absurd running h
  · rintro he
    exact ⟨#[], m, .refl m, h, he⟩

/-- Machines that differ in their traces alone come to the same end. -/
theorem ends_congr {m m' n : Machine} {answer : Except Fault State} (h : m.bare = m'.bare)
    (ends : m.Ends answer n) : m'.Ends answer n := by
  obtain ⟨events, k, passes, last, he⟩ := ends_iff.mp ends
  induction passes generalizing m' with
  | refl m =>
    obtain ⟨result, left⟩ := step_congr h
    rw [ends_last (result ▸ last), ← result, ← left]
    exact he
  | head running rest ih =>
    obtain ⟨result, left⟩ := step_congr h
    rw [ends_step (result ▸ running)]
    exact ih left ((ends_step running).mp ends) last he

private theorem ends_start {m n : Machine} {answer : Except Fault State} (live : m.Live) :
    m.start.Ends answer n ↔ m.Ends answer n := by
  have same := step_eq_start live
  have result : m.step.result = m.start.step.result := by rw [same]
  have left : m.step.machine = m.start.step.machine := by rw [same]
  by_cases running : m.step.result = .ok .running
  · rw [ends_step running, ends_step (result ▸ running), left]
  · rw [ends_last running, ends_last (result ▸ running), result, left]

/-! ### Later inputs -/

private theorem plan_supply {m : Machine} (later : List Int)
    (h : ∀ i, m.plan ≠ .ok (i, .suspend)) : (m.supply later).plan = m.plan := by
  have inside : (m.supply later).memory.contains (m.supply later).pc =
      m.memory.contains m.pc := rfl
  have decoded : Instruction.decode (m.supply later).memory (m.supply later).pc =
      Instruction.decode m.memory m.pc := rfl
  unfold plan at h ⊢
  rw [inside, decoded]
  split
  · next inside =>
    cases hd : Instruction.decode m.memory m.pc with
    | error f => rfl
    | ok i =>
      have enough : i.effect m.memory m.inputs ≠ .ok .suspend := by
        intro he
        have := h i
        simp only [inside, if_true, hd, he, ne_eq, not_true_eq_false] at this
      have same : i.effect (m.supply later).memory (m.supply later).inputs =
          i.effect m.memory m.inputs := Instruction.effect_append later enough
      simp only [same]
  · rfl

/-- A machine waits after a step exactly if it was live and had to suspend. -/
theorem step_waiting_iff {m : Machine} :
    m.step.result = .ok .waitingForInput ↔ m.Live ∧ ∃ i, m.plan = .ok (i, .suspend) := by
  constructor
  · intro h
    by_cases live : m.Live
    · cases hp : m.plan with
      | error f =>
        rw [(step_of_plan_error live hp).1] at h
        cases h
      | ok p =>
        obtain ⟨i, e⟩ := p
        obtain ⟨lines, hn⟩ := note_eq m.start i
        rw [step_of_plan_ok live hp, hn] at h
        have state := (state_apply _ _ e).symm.trans (Except.ok.inj h)
        cases e with
        | suspend => exact ⟨live, i, rfl⟩
        | _ => cases state
    · rw [step_of_not_live live] at h
      rcases standing_of_not_live live with ⟨-, -, hs⟩ | ⟨f, -, hs⟩
      · cases hs.symm.trans h
      · cases hs.symm.trans h
  · rintro ⟨live, i, hp⟩
    rw [step_of_plan_ok live hp]
    rfl

/-- A machine that waits after a step has no inputs, and is otherwise left as it was. -/
theorem step_of_waiting {m : Machine} (h : m.step.result = .ok .waitingForInput) :
    m.inputs = [] ∧
      ∃ lines, m.step.machine = { m with state := .waitingForInput, trace := lines } := by
  obtain ⟨live, i, hp⟩ := step_waiting_iff.mp h
  obtain ⟨lines, hn⟩ := note_eq m.start i
  refine ⟨(Instruction.warrants_of_effect (plan_eq_ok_iff.mp hp).2.2).2, lines, ?_⟩
  rw [step_of_plan_ok live hp, hn]
  rfl

private theorem supply_carried {m : Machine} {i : Instruction} {e : Effect Int} (later : List Int)
    (hp : m.plan = .ok (i, e)) :
    (((m.supply later).start.note i).apply i.width e).bare =
      (((m.start.note i).apply i.width e).supply later).bare := by
  obtain ⟨lines, hn⟩ := note_eq m.start i
  rw [bare_carried, hn]
  cases e with
  | take a v =>
    obtain ⟨-, -, rest, hi⟩ := Instruction.warrants_of_effect (plan_eq_ok_iff.mp hp).2.2
    simp [apply, supply, bare, start, hi]
  | _ => rfl

private theorem step_supply {m : Machine} (later : List Int)
    (h : m.step.result ≠ .ok .waitingForInput) :
    (m.supply later).step.result = m.step.result ∧
      (m.supply later).step.machine.bare = (m.step.machine.supply later).bare := by
  by_cases live : m.Live
  · have live' : (m.supply later).Live := live
    have hp : (m.supply later).plan = m.plan :=
      plan_supply later fun i hi ↦ h (step_waiting_iff.mpr ⟨live, i, hi⟩)
    cases hm : m.plan with
    | error f =>
      obtain ⟨result, lines, left⟩ := step_of_plan_error live hm
      obtain ⟨result', lines', left'⟩ := step_of_plan_error live' (hp.trans hm)
      refine ⟨result'.trans result.symm, ?_⟩
      rw [left, left']
      rfl
    | ok p =>
      have after := supply_carried later hm
      rw [step_of_plan_ok live hm, step_of_plan_ok live' (hp.trans hm)]
      exact ⟨congrArg Except.ok (bare_state after).1, after⟩
  · have dead : ¬(m.supply later).Live := live
    rw [step_of_not_live live, step_of_not_live dead]
    exact ⟨rfl, rfl⟩

/-- After a step that neither runs on nor waits there is nothing more to do, whatever is supplied.
-/
theorem step_of_stopped {m : Machine} (later : List Int)
    (running : m.step.result ≠ .ok .running) (waiting : m.step.result ≠ .ok .waitingForInput) :
    (m.step.machine.supply later).step =
      (m.step.machine.supply later).unchanged m.step.result := by
  have stopped : ¬m.step.machine.Live ∧ m.step.machine.standing = m.step.result := by
    by_cases live : m.Live
    · cases hp : m.plan with
      | error f =>
        obtain ⟨result, lines, left⟩ := step_of_plan_error live hp
        rw [result, left]
        exact ⟨fun h ↦ (nomatch h.1), rfl⟩
      | ok p =>
        obtain ⟨i, e⟩ := p
        obtain ⟨lines, hn⟩ := note_eq m.start i
        rw [step_of_plan_ok live hp, hn] at running waiting ⊢
        have nofault : m.fault = none := live.1
        cases e with
        | halt => exact ⟨fun h ↦ h.2 rfl, by simp [standing, apply, start, nofault]⟩
        | suspend => exact absurd rfl waiting
        | _ => exact absurd rfl running
    · rw [step_of_not_live live]
      exact ⟨live, rfl⟩
  have dead : ¬(m.step.machine.supply later).Live := stopped.1
  rw [step_of_not_live dead]
  exact congrArg _ stopped.2

/-- A step comes before the inputs that are supplied after it: the end is the same if they are
supplied before. -/
theorem ends_supply_step {m n : Machine} {answer : Except Fault State} {later : List Int}
    (h : (m.step.machine.supply later).Ends answer n) : (m.supply later).Ends answer n := by
  by_cases waiting : m.step.result = .ok .waitingForInput
  · -- The suspended instruction is tried once more, now from the same inputs as before.
    obtain ⟨live, -⟩ := step_waiting_iff.mp waiting
    obtain ⟨-, lines, left⟩ := step_of_waiting waiting
    have live' : (m.supply later).Live := live
    have again : (m.step.machine.supply later).Live := by
      rw [left]
      exact ⟨live.1, nofun⟩
    rw [← ends_start live']
    refine ends_congr ?_ ((ends_start again).mpr h)
    rw [left]
    rfl
  · obtain ⟨result, left⟩ := step_supply later waiting
    by_cases running : m.step.result = .ok .running
    · rw [ends_step (result.trans running)]
      exact ends_congr left.symm h
    · have same := step_of_stopped later running waiting
      have last : (m.step.machine.supply later).step.result ≠ .ok .running := by rwa [same]
      rw [ends_last (result ▸ running), result, left]
      rw [ends_last last, same] at h
      exact h

/-- Inputs that are supplied after a run may as well be supplied before it. -/
theorem ends_supply_run {m n : Machine} {answer : Except Fault State} {later : List Int}
    {allowance : Nat} {r : Response State} (ran : m.run allowance = some r)
    (h : (r.machine.supply later).Ends answer n) : (m.supply later).Ends answer n := by
  obtain ⟨events, k, passes, -, rfl⟩ := run_iff.mp ⟨allowance, ran⟩
  have last : (k.supply later).Ends answer n := ends_supply_step h
  clear ran h
  induction passes with
  | refl => exact last
  | head _ _ ih => exact ends_supply_step (ih last)

end DecimalMachine.Machine
