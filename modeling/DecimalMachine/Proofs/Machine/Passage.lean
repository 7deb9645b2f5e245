import DecimalMachine.Machine.Run
import DecimalMachine.Proofs.Machine.Plan

/-!
# Runs are steps

A run is told without an allowance: instructions that complete take the machine from one moment to
the next, and the first step that does not leave it running is the last. `run_iff` says that the
runs which stop are exactly these, with the same answer, the same machine and the same events.
-/

namespace DecimalMachine.Machine

/-- Steps that leave the machine running lead from the first machine to the second, and report the
events on the way. -/
inductive Passes : Machine → Array Event → Machine → Prop
  | refl (m : Machine) : Passes m #[] m
  | head {m n : Machine} {events : Array Event} (completed : m.step.result = .ok .running)
      (rest : Passes m.step.machine events n) : Passes m (m.step.events ++ events) n

/-- What a run reports at its end: the state, unless a fault ends it or there was nothing to run. -/
def lastWords (m : Machine) : Array Event :=
  match m.step.result with
  | .ok s => if m.Live then #[.stopped s m.step.machine.pc] else #[]
  | .error _ => #[]

/-- The response of a run whose last step this machine makes, after the events seen before. -/
def finish (m : Machine) (seen : Array Event) : Response State :=
  ⟨m.step.result, m.step.machine, seen ++ (m.step.events ++ m.lastWords)⟩

/-! ### Steps of a machine that runs -/

private theorem start_of_running {m : Machine} (h : m.state = .running) : m.start = m := by
  cases m
  cases h
  rfl

/-- A step that answers with a state leaves that state and no fault. -/
theorem step_ok {m : Machine} {s : State} (h : m.step.result = .ok s) :
    m.step.machine.state = s ∧ m.step.machine.fault = none := by
  by_cases live : m.Live
  · cases hp : m.plan with
    | error f =>
      rw [(step_of_plan_error live hp).1] at h
      cases h
    | ok p =>
      obtain ⟨lines, hn⟩ := note_eq m.start p.1
      rw [step_of_plan_ok live hp] at h ⊢
      refine ⟨Except.ok.inj h, ?_⟩
      rw [fault_apply, hn]
      exact live.1
  · rw [step_of_not_live live] at h ⊢
    rcases standing_of_not_live live with ⟨hf, ht, hs⟩ | ⟨f, -, hs⟩
    · exact ⟨ht.trans (Except.ok.inj (hs.symm.trans h)), hf⟩
    · cases hs.symm.trans h

/-- A machine whose step leaves it running is live before and after. -/
theorem live_of_running {m : Machine} (h : m.step.result = .ok .running) :
    m.Live ∧ m.step.machine.Live := by
  constructor
  · refine Decidable.byContradiction fun dead ↦ ?_
    rw [step_of_not_live dead] at h
    rcases standing_of_not_live dead with ⟨-, -, hs⟩ | ⟨f, -, hs⟩
    · cases hs.symm.trans h
    · cases hs.symm.trans h
  · obtain ⟨hs, hf⟩ := step_ok h
    exact ⟨hf, by rw [hs]; decide⟩

/-- Completed instructions lead from live machines to live machines. -/
theorem live_of_passes {m n : Machine} {events : Array Event} (passes : m.Passes events n)
    (live : m.Live) : n.Live := by
  induction passes with
  | refl => exact live
  | head completed _ ih => exact ih (live_of_running completed).2

/-- A step is the step of the started machine, after the event of starting. -/
theorem step_eq_start {m : Machine} (live : m.Live) :
    m.step = { m.start.step with events := m.startEvents ++ m.start.step.events } := by
  have hf : m.start.fault = none := live.1
  have hs : m.start.state = .running := rfl
  have hr : ¬m.start.state = .terminated := by rw [hs]; decide
  have he : m.start.startEvents = #[] := if_pos hs
  have inside : m.start.memory.contains m.start.pc = m.memory.contains m.pc := rfl
  simp only [step, live.1, if_neg live.2, hf, if_neg hr, start_of_running hs, he, inside]
  split
  · simp
  · simp only [faultWith, Array.append_push, Array.append_empty]
    rfl

/-! ### Allowances -/

private theorem runFrom_seen (k : Nat) (m : Machine) (seen : Array Event) :
    runFrom k m seen =
      (runFrom k m #[]).map fun r ↦ { r with events := seen ++ r.events } := by
  induction k generalizing m seen with
  | zero => rfl
  | succ k ih =>
    simp only [runFrom]
    split
    · split
      · split
        · simp
        · rw [ih, ih m.cycle.machine (#[] ++ m.cycle.events), Option.map_map]
          simp [Function.comp_def]
      · simp [faultWith]
    · simp

private theorem runFrom_succ {m : Machine} (k : Nat) (seen : Array Event) (hf : m.fault = none)
    (hs : m.state = .running) :
    runFrom (k + 1) m seen =
      match m.step.result with
      | .error f => some ⟨.error f, m.step.machine, seen ++ m.step.events⟩
      | .ok _ => runFrom k m.step.machine (seen ++ m.step.events) := by
  have hr : ¬State.running = .terminated := by decide
  have he : m.startEvents = #[] := if_pos hs
  simp only [runFrom, hs, if_true, step, hf, if_neg hr, start_of_running hs, he]
  split
  · cases m.cycle.result <;> simp
  · simp [faultWith]

/-- Running on to an end takes no more than a larger allowance. -/
theorem runFrom_mono {k k' : Nat} {m : Machine} {seen : Array Event} {r : Response State}
    (h : runFrom k m seen = some r) (enough : k ≤ k') : runFrom k' m seen = some r := by
  induction k generalizing k' m seen with
  | zero => cases h
  | succ k ih =>
    obtain ⟨l, rfl⟩ := Nat.exists_eq_succ_of_ne_zero (by omega : k' ≠ 0)
    have enough' : k ≤ l := by omega
    simp only [runFrom] at h ⊢
    split
    · next running =>
      rw [if_pos running] at h
      split
      · next inside =>
        rw [if_pos inside] at h
        cases result : m.cycle.result with
        | error f =>
          rw [result] at h
          exact h
        | ok s =>
          rw [result] at h
          exact ih h enough'
      · next outside =>
        rw [if_neg outside] at h
        exact h
    · next stopped =>
      rw [if_neg stopped] at h
      exact h

/-- A run that stops also stops under a larger allowance. -/
theorem run_mono {k k' : Nat} {m : Machine} {r : Response State} (h : m.run k = some r)
    (enough : k ≤ k') : m.run k' = some r := by
  unfold run at h ⊢
  split
  · next f broken =>
    rw [broken] at h
    exact h
  · next nofault =>
    rw [nofault] at h
    split
    · next halted =>
      simp only [if_pos halted] at h
      exact h
    · next alive =>
      simp only [if_neg alive] at h
      exact runFrom_mono h enough

private theorem run_succ {m : Machine} (k : Nat) (live : m.Live) :
    m.run (k + 1) =
      match m.step.result with
      | .error f => some ⟨.error f, m.step.machine, m.step.events⟩
      | .ok _ => runFrom k m.step.machine m.step.events := by
  have hf : m.start.fault = none := live.1
  rw [step_eq_start live]
  simp only [run, live.1, if_neg live.2, runFrom_succ k m.startEvents hf rfl]

private theorem run_of_not_live {m : Machine} (k : Nat) (dead : ¬m.Live) :
    m.run k = some (m.finish #[]) := by
  rcases standing_of_not_live dead with ⟨hf, ht, hs⟩ | ⟨f, hf, hs⟩
  · simp [run, hf, ht, finish, lastWords, step_of_not_live dead, hs, unchanged, dead]
  · simp [run, hf, finish, lastWords, step_of_not_live dead, hs, unchanged]

private theorem runFrom_of_stopped {m : Machine} {r : Response State} {k : Nat} {seen : Array Event}
    (hs : m.state ≠ .running) (h : runFrom k m seen = some r) :
    r = ⟨.ok m.state, m, seen.push (.stopped m.state m.pc)⟩ := by
  cases k with
  | zero => cases h
  | succ k =>
    simp only [runFrom, if_neg hs, Option.some.injEq] at h
    exact h.symm

/-- A last step that ends with a state ends the run with it. -/
theorem finish_of_ok {m : Machine} {s : State} (live : m.Live) (h : m.step.result = .ok s)
    (seen : Array Event) :
    m.finish seen = ⟨.ok s, m.step.machine,
      (seen ++ m.step.events).push (.stopped s m.step.machine.pc)⟩ := by
  simp [finish, lastWords, h, live]

/-- A last step that meets a fault ends the run with it. -/
theorem finish_of_error {m : Machine} {f : Fault} (h : m.step.result = .error f)
    (seen : Array Event) :
    m.finish seen = ⟨.error f, m.step.machine, seen ++ m.step.events⟩ := by
  simp [finish, lastWords, h]

private theorem passes_of_first {k : Nat} {m : Machine} {seen : Array Event} {r : Response State}
    (live : m.Live)
    (h : (match m.step.result with
      | .error f => some ⟨.error f, m.step.machine, seen ++ m.step.events⟩
      | .ok _ => runFrom k m.step.machine (seen ++ m.step.events)) = some r)
    (later : m.step.machine.fault = none → m.step.machine.state = .running →
      runFrom k m.step.machine (seen ++ m.step.events) = some r →
      ∃ events n, m.step.machine.Passes events n ∧ n.step.result ≠ .ok .running ∧
        r = n.finish (seen ++ m.step.events ++ events)) :
    ∃ events n, m.Passes events n ∧ n.step.result ≠ .ok .running ∧
      r = n.finish (seen ++ events) := by
  cases hr : m.step.result with
  | error f =>
    simp only [hr, Option.some.injEq] at h
    refine ⟨#[], m, .refl m, by rw [hr]; exact nofun, ?_⟩
    rw [finish_of_error hr, Array.append_empty]
    exact h.symm
  | ok s =>
    simp only [hr] at h
    obtain ⟨state, nofault⟩ := step_ok hr
    by_cases running : s = .running
    · subst running
      obtain ⟨events, n, passes, last, hr'⟩ := later nofault state h
      refine ⟨_, n, .head hr passes, last, ?_⟩
      rw [hr', Array.append_assoc]
    · refine ⟨#[], m, .refl m, fun hc ↦ running (Except.ok.inj (hr.symm.trans hc)), ?_⟩
      rw [runFrom_of_stopped (by rw [state]; exact running) h, state, finish_of_ok live hr,
        Array.append_empty]

private theorem passes_of_runFrom {k : Nat} {m : Machine} {seen : Array Event} {r : Response State}
    (hf : m.fault = none) (hs : m.state = .running) (h : runFrom k m seen = some r) :
    ∃ events n, m.Passes events n ∧ n.step.result ≠ .ok .running ∧
      r = n.finish (seen ++ events) := by
  induction k generalizing m seen with
  | zero => cases h
  | succ k ih =>
    rw [runFrom_succ k seen hf hs] at h
    exact passes_of_first ⟨hf, by rw [hs]; decide⟩ h ih

/-- A run that stops passes through instructions that complete and ends with one that does not leave
the machine running. -/
theorem passes_of_run {k : Nat} {m : Machine} {r : Response State} (h : m.run k = some r) :
    ∃ events n, m.Passes events n ∧ n.step.result ≠ .ok .running ∧ r = n.finish events := by
  by_cases live : m.Live
  · cases k with
    | zero =>
      simp only [run, live.1, if_neg live.2, runFrom] at h
      cases h
    | succ k =>
      rw [run_succ k live, ← @Array.empty_append _ m.step.events] at h
      obtain ⟨events, n, passes, last, hr⟩ := passes_of_first live h passes_of_runFrom
      rw [Array.empty_append] at hr
      exact ⟨events, n, passes, last, hr⟩
  · rw [run_of_not_live k live, Option.some.injEq] at h
    exact ⟨#[], m, .refl m, fun running ↦ live (live_of_running running).1, h.symm⟩

/-- Instructions that complete and one that does not leave the machine running make up a run that
stops, whatever the allowance for the others was. -/
theorem run_of_passes {m n : Machine} {events : Array Event} (passes : m.Passes events n)
    (last : n.step.result ≠ .ok .running) : ∃ k, m.run k = some (n.finish events) := by
  induction passes with
  | refl m =>
    by_cases live : m.Live
    · refine ⟨2, ?_⟩
      rw [run_succ 1 live]
      cases hr : m.step.result with
      | error f => rw [finish_of_error hr, Array.empty_append]
      | ok s =>
        have running : ¬s = .running := fun hs ↦ last (hs ▸ hr)
        simp only [runFrom, (step_ok hr).1, if_neg running, finish_of_ok live hr,
          Array.empty_append]
    · exact ⟨0, run_of_not_live 0 live⟩
  | @head m n events completed rest ih =>
    obtain ⟨k, hk⟩ := ih last
    obtain ⟨live, live'⟩ := live_of_running completed
    refine ⟨k + 1, ?_⟩
    have hs : m.step.machine.state = .running := (step_ok completed).1
    have he : m.step.machine.startEvents = #[] := if_pos hs
    simp only [run, live'.1, if_neg live'.2, start_of_running hs, he] at hk
    rw [run_succ k live]
    simp only [completed]
    rw [runFrom_seen, hk, Option.map_some]
    simp only [finish, Array.append_assoc]

/-- The runs that stop are the passages that end. -/
theorem run_iff {m : Machine} {r : Response State} :
    (∃ allowance, m.run allowance = some r) ↔
      ∃ events n, m.Passes events n ∧ n.step.result ≠ .ok .running ∧ r = n.finish events := by
  constructor
  · rintro ⟨k, h⟩
    exact passes_of_run h
  · rintro ⟨events, n, passes, last, rfl⟩
    exact run_of_passes passes last

/-! ### One way only -/

/-- There is only one way to a step that does not leave the machine running. -/
theorem Passes.unique {m n k : Machine} {events events' : Array Event} (passes : m.Passes events n)
    (last : n.step.result ≠ .ok .running) (passes' : m.Passes events' k)
    (last' : k.step.result ≠ .ok .running) : events = events' ∧ n = k := by
  induction passes generalizing events' with
  | refl m =>
    cases passes' with
    | refl => exact ⟨rfl, rfl⟩
    | head running rest => exact absurd running last
  | head running rest ih =>
    cases passes' with
    | refl => exact absurd running last'
    | head _ rest' =>
      obtain ⟨same, rfl⟩ := ih last rest'
      rw [same]
      exact ⟨rfl, rfl⟩

/-- Runs of a machine that stop give one response, whatever their allowances. -/
theorem run_unique {m : Machine} {allowance allowance' : Nat} {r q : Response State}
    (ran : m.run allowance = some r) (ran' : m.run allowance' = some q) : r = q := by
  obtain ⟨events, n, passes, last, rfl⟩ := passes_of_run ran
  obtain ⟨events', k, passes', last', rfl⟩ := passes_of_run ran'
  obtain ⟨rfl, rfl⟩ := passes.unique last passes' last'
  rfl

end DecimalMachine.Machine
