import DecimalMachine.Proofs.Machine.Passage

/-!
# Step by step

A machine can be driven in two ways: by one run, or by steps made one by one for as long as it
answers that it runs. The two drivers test the program counter at different places, and each starts
the machine on its own. Still either both stop or neither does, and where they stop they have the
same answer and leave the same machine, whatever state it was in.
-/

namespace DecimalMachine.Machine

/-- Steps, at most as many as allowed, for as long as the machine answers that it runs. The response
is that of the last step, with the events of all of them. -/
def stepOn : Nat → Machine → Option (Response State)
  | 0, _ => none
  | k + 1, m =>
    match m.step.result with
    | .ok .running =>
      (stepOn k m.step.machine).map fun r ↦ { r with events := m.step.events ++ r.events }
    | _ => some m.step

private theorem stepOn_of_running {m : Machine} (k : Nat) (h : m.step.result = .ok .running) :
    m.stepOn (k + 1) =
      (m.step.machine.stepOn k).map fun r ↦ { r with events := m.step.events ++ r.events } := by
  simp only [stepOn, h]

private theorem stepOn_of_last {m : Machine} (k : Nat) (h : m.step.result ≠ .ok .running) :
    m.stepOn (k + 1) = some m.step := by
  rw [stepOn]
  split
  · next running => exact absurd running h
  · rfl

private theorem passes_of_stepOn {k : Nat} {m : Machine} {r : Response State}
    (h : m.stepOn k = some r) :
    ∃ events n, m.Passes events n ∧ n.step.result ≠ .ok .running ∧
      r = { n.step with events := events ++ n.step.events } := by
  induction k generalizing m r with
  | zero => cases h
  | succ k ih =>
    by_cases running : m.step.result = .ok .running
    · rw [stepOn_of_running k running] at h
      obtain ⟨q, stopped, rfl⟩ := Option.map_eq_some_iff.mp h
      obtain ⟨events, n, passes, last, rfl⟩ := ih stopped
      exact ⟨_, n, .head running passes, last, by rw [Array.append_assoc]⟩
    · rw [stepOn_of_last k running] at h
      cases h
      exact ⟨#[], m, .refl m, running, by rw [Array.empty_append]⟩

private theorem stepOn_of_passes {m n : Machine} {events : Array Event} (passes : m.Passes events n)
    (last : n.step.result ≠ .ok .running) :
    ∃ k, m.stepOn k = some { n.step with events := events ++ n.step.events } := by
  induction passes with
  | refl m =>
    refine ⟨1, ?_⟩
    rw [stepOn_of_last 0 last, Array.empty_append]
  | @head m n events running rest ih =>
    obtain ⟨k, stopped⟩ := ih last
    refine ⟨k + 1, ?_⟩
    rw [stepOn_of_running k running, stopped, Option.map_some, Array.append_assoc]

/-- Steps made one by one stop exactly if a run stops. -/
theorem stepOn_stops_iff (m : Machine) :
    (∃ allowance r, m.stepOn allowance = some r) ↔ ∃ allowance r, m.run allowance = some r := by
  constructor
  · rintro ⟨allowance, r, stopped⟩
    obtain ⟨events, n, passes, last, -⟩ := passes_of_stepOn stopped
    obtain ⟨k, ran⟩ := run_of_passes passes last
    exact ⟨k, _, ran⟩
  · rintro ⟨allowance, r, ran⟩
    obtain ⟨events, n, passes, last, -⟩ := passes_of_run ran
    obtain ⟨k, stopped⟩ := stepOn_of_passes passes last
    exact ⟨k, _, stopped⟩

/-- A run is steps made one by one for as long as the machine answers that it runs. Whatever machine
is driven, either both stop or neither does; and if they do, whatever they were allowed, their
answers are the same, and so are the machines they leave, trace included. -/
theorem run_is_stepping_on (m : Machine) :
    ((∃ allowance r, m.run allowance = some r) ↔
        ∃ allowance r, m.stepOn allowance = some r) ∧
      ∀ allowance allowance' r q, m.run allowance = some r → m.stepOn allowance' = some q →
        r.result = q.result ∧ r.machine = q.machine := by
  refine ⟨(stepOn_stops_iff m).symm, ?_⟩
  intro allowance allowance' r q ran stopped
  obtain ⟨events, n, passes, last, rfl⟩ := passes_of_run ran
  obtain ⟨events', k, passes', last', rfl⟩ := passes_of_stepOn stopped
  obtain ⟨-, rfl⟩ := passes.unique last passes' last'
  exact ⟨rfl, rfl⟩

/-- A machine that waits, notes its instructions and has an input by now reads it, jumps behind the
end of its program and breaks there, in either way. -/
theorem run_is_stepping_on_off_the_end :
    ∃ (m : Machine) (r q : Response State),
      m.state = .waitingForInput ∧ m.tracing = true ∧ m.run 4 = some r ∧ m.stepOn 3 = some q ∧
        r.result = .error (.ranOff 9 5) ∧ r.machine.memory.toList = [3, 3, 1105, 9, 9] ∧
        r.machine.trace.size = 2 ∧ r.result = q.result ∧ r.machine = q.machine := by
  have ran : ({ ofCells [3, 3, 1105, 1, 9] [9] true with
      state := .waitingForInput } : Machine).run 4 = some _ := rfl
  have stopped : ({ ofCells [3, 3, 1105, 1, 9] [9] true with
      state := .waitingForInput } : Machine).stepOn 3 = some _ := rfl
  exact ⟨_, _, _, rfl, rfl, ran, stopped, rfl, rfl, rfl,
    (run_is_stepping_on _).2 4 3 _ _ ran stopped⟩

end DecimalMachine.Machine
