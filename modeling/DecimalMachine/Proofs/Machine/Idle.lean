import DecimalMachine.Proofs.Machine.History

/-!
# Machines at rest

A run that ends without a fault leaves the machine at rest: it has halted, or it waits in front of
an instruction that finds no input. Run again it stays as it is; fed, it takes the input at once. On
the way outputs only grow, and inputs are only used up.
-/

namespace DecimalMachine.Machine

/-- A machine at rest does not run, and a step leaves it in its state. -/
def Idle (m : Machine) : Prop := m.state ≠ .running ∧ m.step.result = .ok m.state

/-- The second machine comes after the first: it has the same outputs and maybe more, and of the
inputs the last ones. -/
structure Precedes (m n : Machine) : Prop where
  outputs : m.outputs.toList <+: n.outputs.toList
  inputs : n.inputs <:+ m.inputs

/-! ### What comes after a machine -/

private theorem Precedes.refl (m : Machine) :
    m.Precedes m := ⟨List.prefix_refl _, List.suffix_refl _⟩

private theorem Precedes.trans {m n k : Machine} (first : m.Precedes n) (second : n.Precedes k) :
    m.Precedes k :=
  ⟨first.outputs.trans second.outputs, second.inputs.trans first.inputs⟩

private theorem precedes_apply (m : Machine) (width : Nat) (e : Effect Int) :
    m.Precedes (m.apply width e) := by
  cases e with
  | emit v => exact ⟨by simp [apply], List.suffix_refl _⟩
  | take a v => exact ⟨List.prefix_refl _, List.tail_suffix _⟩
  | _ => exact ⟨List.prefix_refl _, List.suffix_refl _⟩

/-- A machine comes before what a step makes of it. -/
theorem precedes_step (m : Machine) : m.Precedes m.step.machine := by
  rcases m.step_cases with ⟨-, left⟩ | ⟨-, f, lines, -, left⟩ | ⟨-, i, e, lines, -, left⟩
  · rw [left]
    exact .refl m
  · rw [left]
    exact ⟨List.prefix_refl _, List.suffix_refl _⟩
  · rw [left]
    obtain ⟨outputs, inputs⟩ := precedes_apply { m.start with trace := lines } i.width e
    exact ⟨outputs, inputs⟩

private theorem precedes_of_passes {m n : Machine} {events : Array Event}
    (passes : m.Passes events n) :
    m.Precedes n := by
  induction passes with
  | refl m => exact .refl m
  | head _ _ ih => exact (precedes_step _).trans ih

/-- A machine comes before what a run makes of it. -/
theorem precedes_of_run {m : Machine} {allowance : Nat} {r : Response State}
    (ran : m.run allowance = some r) : m.Precedes r.machine := by
  obtain ⟨events, n, passes, -, rfl⟩ := run_iff.mp ⟨allowance, ran⟩
  exact (precedes_of_passes passes).trans (precedes_step n)

/-! ### Resting -/

/-- A machine at rest that is live waits for an input. -/
theorem Idle.waiting {m : Machine} (idle : m.Idle) (live : m.Live) :
    m.state = .waitingForInput := by
  obtain ⟨resting, answer⟩ := idle
  cases hp : m.plan with
  | error f =>
    rw [(step_of_plan_error live hp).1] at answer
    cases answer
  | ok p =>
    obtain ⟨lines, hn⟩ := note_eq m.start p.1
    rw [step_of_plan_ok live hp, hn] at answer
    have state := (Except.ok.inj answer).symm.trans (state_apply _ _ p.2)
    cases he : p.2 with
    | suspend =>
      rw [he] at state
      exact state
    | halt =>
      rw [he] at state
      exact absurd state live.2
    | _ =>
      rw [he] at state
      exact absurd state resting

/-- A machine at rest has no fault. -/
theorem Idle.unbroken {m : Machine} (idle : m.Idle) : m.fault = none := by
  by_cases live : m.Live
  · exact live.1
  · rcases standing_of_not_live live with ⟨nofault, -, -⟩ | ⟨f, -, stands⟩
    · exact nofault
    · have answer := idle.2
      rw [step_of_not_live live, result_unchanged, stands] at answer
      cases answer

/-- A machine at rest that is run again stays as it is. -/
theorem Idle.ends {m : Machine} (idle : m.Idle) : m.Ends (.ok m.state) m.bare := by
  rw [ends_last fun running ↦ idle.1 (Except.ok.inj (idle.2.symm.trans running))]
  refine ⟨idle.2, ?_⟩
  by_cases live : m.Live
  · have waiting := idle.waiting live
    obtain ⟨-, lines, left⟩ := step_of_waiting (waiting ▸ idle.2)
    rw [left, bare, bare, waiting]
  · rw [step_of_not_live live, machine_unchanged]

/-- A run that ends without a fault leaves the machine at rest. -/
theorem idle_of_run {m : Machine} {allowance : Nat} {r : Response State} {s : State}
    (ran : m.run allowance = some r) (ok : r.result = .ok s) : r.machine.Idle := by
  obtain ⟨events, n, -, last, rfl⟩ := run_iff.mp ⟨allowance, ran⟩
  have answer : n.step.result = .ok s := ok
  have state : n.step.machine.state = s := (step_ok answer).1
  refine ⟨fun running ↦ last (answer.trans (congrArg _ (state.symm.trans running))), ?_⟩
  show n.step.machine.step.result = .ok n.step.machine.state
  rw [state]
  by_cases waiting : s = .waitingForInput
  · subst waiting
    obtain ⟨live, i, hp⟩ := step_waiting_iff.mp answer
    obtain ⟨-, lines, left⟩ := step_of_waiting answer
    rw [left]
    exact step_waiting_iff.mpr ⟨⟨live.1, nofun⟩, i, hp⟩
  · have stopped := step_of_stopped [] last fun h ↦
      waiting (Except.ok.inj (answer.symm.trans h))
    rw [supply_nil] at stopped
    rw [stopped, result_unchanged, answer]

/-! ### Feeding -/

/-- Outputs only grow when a machine is fed. -/
theorem outputs_of_feed {m : Machine} {allowance : Nat} {v : Int} {r : Response State}
    (fed : m.feed allowance v = some r) : m.outputs.toList <+: r.machine.outputs.toList := by
  by_cases live : m.Live
  · by_cases waiting : m.state = .waitingForInput
    · rw [feed_of_waiting allowance v live.1 waiting] at fed
      exact (precedes_of_run fed).outputs
    · rw [feed_of_not_waiting allowance v live waiting] at fed
      cases fed
      exact List.prefix_refl _
  · have answers : m.Answers (.feed v) (r.map .state) :=
      answers_feed_iff.mpr ⟨allowance, r, fed, rfl⟩
    have left : r.machine = m :=
      congrArg Response.machine ((answers_of_not_live live rfl).mp answers)
    exact left ▸ List.prefix_refl _

/-- Only a live machine takes an input. -/
theorem live_of_feed {m : Machine} {allowance : Nat} {v : Int} {r : Response State} {s : State}
    (fed : m.feed allowance v = some r) (ok : r.result = .ok s) : m.Live := by
  refine Decidable.byContradiction fun dead ↦ ?_
  rcases standing_of_not_live dead with ⟨hf, ht, -⟩ | ⟨f, hf, -⟩
  · simp only [feed, hf, ht, if_true, Option.some.injEq] at fed
    subst fed
    cases ok
  · simp only [feed, hf, Option.some.injEq] at fed
    subst fed
    cases ok

private theorem Idle.run_of_feed {m : Machine} {allowance : Nat} {v : Int} {r : Response State}
    {s : State}
    (idle : m.Idle) (fed : m.feed allowance v = some r) (ok : r.result = .ok s) :
    m.state = .waitingForInput ∧ (m.supply [v]).run allowance = some r := by
  have live := live_of_feed fed ok
  have waiting := idle.waiting live
  rw [feed_of_waiting allowance v live.1 waiting] at fed
  exact ⟨waiting, fed⟩

private theorem inputs_of_resumed {m : Machine} {v : Int} {s : State}
    (waits : m.step.result = .ok .waitingForInput)
    (resumes : (m.supply [v]).step.result = .ok s) :
    (m.supply [v]).step.machine.inputs = [] := by
  obtain ⟨live, i, planned⟩ := step_waiting_iff.mp waits
  obtain ⟨inside, decoded, suspends⟩ := plan_eq_ok_iff.mp planned
  obtain ⟨reads, empty⟩ := Instruction.effect_eq_suspend_iff.mp suspends
  have queue : (m.supply [v]).inputs = [v] := by simp [supply, empty]
  have live' : (m.supply [v]).Live := live
  cases hp : (m.supply [v]).plan with
  | error f =>
    rw [(step_of_plan_error live' hp).1] at resumes
    cases resumes
  | ok p =>
    obtain ⟨j, e⟩ := p
    obtain ⟨-, decoded', effect⟩ := plan_eq_ok_iff.mp hp
    have same : i = j := Except.ok.inj (decoded.symm.trans decoded')
    subst same
    obtain ⟨lines, hn⟩ := note_eq (m.supply [v]).start i
    rw [step_of_plan_ok live' hp, hn]
    have warranted := Instruction.warrants_of_effect effect
    cases e with
    | take a w =>
      show (m.supply [v]).inputs.tail = []
      rw [queue]
      rfl
    | store a w => simp [Instruction.Warrants, reads, Operation.arity] at warranted
    | suspend => simp [Instruction.Warrants, queue] at warranted
    | _ => simp [Instruction.Warrants, reads] at warranted

/-- A machine at rest that takes an input is left at rest, with no inputs. -/
theorem Idle.feed {m : Machine} {allowance : Nat} {v : Int} {r : Response State} {s : State}
    (idle : m.Idle) (fed : m.feed allowance v = some r) (ok : r.result = .ok s) :
    r.machine.Idle ∧ r.machine.inputs = [] := by
  obtain ⟨waiting, ran⟩ := idle.run_of_feed fed ok
  refine ⟨idle_of_run ran ok, ?_⟩
  have waits : m.step.result = .ok .waitingForInput := waiting ▸ idle.2
  obtain ⟨events, n, passes, -, rfl⟩ := run_iff.mp ⟨allowance, ran⟩
  cases passes with
  | refl => exact inputs_of_resumed waits ok
  | head completed rest =>
    have empty := inputs_of_resumed waits completed
    have after := (precedes_of_passes rest).trans (precedes_step n)
    rw [← List.suffix_nil, ← empty]
    exact after.inputs

end DecimalMachine.Machine
