import DecimalMachine.Proofs.Machine.History

/-!
# Failures

A call fails in one of three ways. A machine that is faulted already gives its fault again, one that
has halted refuses an input, and both stay as they are. A live machine keeps the fault it meets for
good, and the instruction that met it has had no effect at all. Looking at a cell and patching one
may fail as well, but that is no matter of the machine's.
-/

namespace DecimalMachine.Machine

/-- How a live machine breaks in a call. -/
structure Breaks (m : Machine) (c : Call) (f : Fault) (after : Machine) : Prop where
  /-- The fault is kept. -/
  fault : after.fault = some f
  /-- The machine is left running. -/
  state : after.state = .running
  /-- Instructions that complete lead from the start of the call, with the input it hands over, to
  the one that fails; single steps have no such instructions. What they left is what is left. -/
  intact : ∃ events n, (m.supply c.handed).Passes events n ∧ (c = .step → n = m) ∧
    n.step.result = .error f ∧ after.memory = n.memory ∧ after.pc = n.pc ∧
    after.outputs = n.outputs ∧ after.inputs = n.inputs
  /-- Whatever is done to the machine afterwards, it cannot be driven any more. -/
  sticky : ∀ es k, History after es k → ∀ d : Call, d.drives = true →
    ∀ allowance, k.call allowance d = some (k.unchanged (.error f))

/-! ### Faults are kept -/

/-- A faulted machine refuses everything with its fault. -/
theorem refusal_of_fault {m : Machine} {f : Fault} (h : m.fault = some f) (c : Call) :
    m.refusal c = .error f := by
  cases c <;> simp only [refusal, standing, h, Except.map]

private theorem not_live_of_fault {m : Machine} {f : Fault} (h : m.fault = some f) : ¬m.Live := by
  intro live
  rw [live.1] at h
  cases h

private theorem fault_of_becomes {m n : Machine} {c : Call} {f : Fault} (h : m.fault = some f)
    (becomes : m.Becomes c n) : n.fault = some f := by
  have dead := not_live_of_fault h
  cases becomes with
  | stay => exact h
  | drive live => exact absurd live dead
  | queue live => exact absurd live dead
  | patch => exact h
  | move => exact h

/-- No history takes a fault away. -/
theorem fault_of_history {m n : Machine} {es : List Exchange} {f : Fault} (h : m.fault = some f)
    (calls : History m es n) : n.fault = some f := by
  induction calls with
  | nil => exact h
  | cons answers _ ih => exact ih (fault_of_becomes h (becomes_of_answers answers))

private theorem call_of_fault {m n : Machine} {es : List Exchange} {f : Fault}
    (h : m.fault = some f)
    (calls : History m es n) {d : Call} (driven : d.drives = true) (allowance : Nat) :
    n.call allowance d = some (n.unchanged (.error f)) := by
  have kept := fault_of_history h calls
  rw [call_of_not_live allowance (not_live_of_fault kept) driven, refusal_of_fault kept]

/-! ### The step that fails -/

/-- A step that fails changes nothing but that the machine has started, has its fault, and may have
noted the instruction. -/
theorem step_of_error {m : Machine} {f : Fault} (live : m.Live) (h : m.step.result = .error f) :
    ∃ lines, m.step.machine = { m.start with fault := some f, trace := lines } := by
  cases hp : m.plan with
  | error g =>
    obtain ⟨result, left⟩ := step_of_plan_error live hp
    rw [result] at h
    cases h
    exact left
  | ok p =>
    rw [step_of_plan_ok live hp] at h
    cases h

private theorem breaks_of_passes {m n : Machine} {c : Call} {f : Fault} {events : Array Event}
    (live : m.Live) (passes : (m.supply c.handed).Passes events n) (single : c = .step → n = m)
    (h : n.step.result = .error f) : m.Breaks c f n.step.machine := by
  have live' : (m.supply c.handed).Live := live
  obtain ⟨lines, left⟩ := step_of_error (live_of_passes passes live') h
  have kept : n.step.machine.fault = some f := by rw [left]
  refine ⟨kept, by rw [left]; rfl, ⟨events, n, passes, single, h, ?_⟩, ?_⟩
  · rw [left]
    exact ⟨rfl, rfl, rfl, rfl⟩
  · intro es k calls d driven allowance
    exact call_of_fault kept calls driven allowance

/-- A run that fails breaks the machine. -/
theorem breaks_of_run {m : Machine} {c : Call} {f : Fault} {allowance : Nat} {q : Response State}
    (live : m.Live) (runs : c ≠ .step) (ran : (m.supply c.handed).run allowance = some q)
    (h : q.result = .error f) : m.Breaks c f q.machine := by
  obtain ⟨events, n, passes, -, rfl⟩ := run_iff.mp ⟨allowance, ran⟩
  exact breaks_of_passes live passes (fun hc ↦ absurd hc runs) h

private theorem error_of_map {r : Except Fault State} {f : Fault}
    (h : r.map Reply.state = .error f) : r = .error f := by
  cases r with
  | error g => exact congrArg _ (Except.error.inj h)
  | ok s => cases h

/-! ### Calls that fail -/

/-- A live machine breaks in every call that drives it and fails. -/
theorem breaks_of_call {m : Machine} {c : Call} {r : Response Reply} {f : Fault} (live : m.Live)
    (driven : c.drives = true) (answers : m.Answers c r) (failed : r.result = .error f) :
    m.Breaks c f r.machine := by
  cases c with
  | run =>
    obtain ⟨allowance, q, ran, rfl⟩ := answers_run_iff.mp answers
    have started : (m.supply (Call.handed .run)).run allowance = some q := by
      rw [Call.handed_run, supply_nil, ran]
    exact breaks_of_run live (by decide) started (error_of_map failed)
  | step =>
    rw [answers_step_iff.mp answers] at failed ⊢
    have passes : (m.supply (Call.handed .step)).Passes #[] m := by
      rw [Call.handed_step, supply_nil]
      exact .refl m
    exact breaks_of_passes live passes (fun _ ↦ rfl) (error_of_map failed)
  | feed v =>
    obtain ⟨allowance, q, fed, rfl⟩ := answers_feed_iff.mp answers
    by_cases waiting : m.state = .waitingForInput
    · rw [feed_of_waiting allowance v live.1 waiting] at fed
      exact breaks_of_run live (by simp) fed (error_of_map failed)
    · rw [feed_of_not_waiting allowance v live waiting] at fed
      cases fed
      cases failed
  | peek a | poke a v | moveTo pc => cases driven

private theorem refusal_eq_error {m : Machine} {c : Call} {f : Fault} (dead : ¬m.Live)
    (driven : c.drives = true) (failed : m.refusal c = .error f) :
    m.fault = some f ∨
      m.fault = none ∧ m.state = .terminated ∧ ∃ v, c = .feed v ∧ f = .fedAfterHalt v := by
  rcases standing_of_not_live dead with ⟨hf, ht, hs⟩ | ⟨g, hf, -⟩
  · cases c with
    | run | step => simp only [refusal, hs, Except.map, reduceCtorEq] at failed
    | feed v =>
      simp only [refusal, hf, Except.error.injEq] at failed
      exact .inr ⟨hf, ht, v, rfl, failed.symm⟩
    | peek a | poke a v | moveTo pc => cases driven
  · rw [refusal_of_fault hf] at failed
    exact .inl (hf.trans (congrArg some (Except.error.inj failed)))

/-- A run that fails leaves its fault in the machine. -/
theorem fault_of_run {m : Machine} {allowance : Nat} {q : Response State} {f : Fault}
    (ran : m.run allowance = some q) (failed : q.result = .error f) : q.machine.fault = some f := by
  by_cases live : m.Live
  · have started : (m.supply (Call.handed .run)).run allowance = some q := by
      rw [Call.handed_run, supply_nil, ran]
    exact (breaks_of_run live (by decide) started failed).fault
  · rcases standing_of_not_live live with ⟨nofault, halted, -⟩ | ⟨g, broken, -⟩
    · simp only [run, nofault, halted, if_true, Option.some.injEq] at ran
      subst ran
      cases failed
    · simp only [run, broken, Option.some.injEq] at ran
      subst ran
      cases failed
      exact broken

/-- Feeding that fails leaves its fault in the machine, unless the machine has halted. -/
theorem fault_of_feed {m : Machine} {allowance : Nat} {v : Int} {q : Response State} {f : Fault}
    (fed : m.feed allowance v = some q) (failed : q.result = .error f) :
    q.machine.fault = some f ∨
      m.state = .terminated ∧ f = .fedAfterHalt v ∧ q.machine = m := by
  have answers : m.Answers (.feed v) (q.map .state) :=
    answers_feed_iff.mpr ⟨allowance, q, fed, rfl⟩
  have failed' : (q.map Reply.state).result = .error f :=
    congrArg (Except.map Reply.state) failed
  by_cases live : m.Live
  · exact .inl (breaks_of_call live rfl answers failed').fault
  · have refused := (answers_of_not_live live rfl).mp answers
    have left : q.machine = m := congrArg Response.machine refused
    rw [refused, result_unchanged] at failed'
    rcases refusal_eq_error live rfl failed' with broken | ⟨-, halted, w, same, rfl⟩
    · exact .inl (left.symm ▸ broken)
    · cases same
      exact .inr ⟨halted, rfl, left⟩

private theorem machine_of_undriven {m : Machine} {c : Call} {r : Response Reply} {f : Fault}
    (undriven : c.drives = false) (answers : m.Answers c r) (failed : r.result = .error f) :
    r.machine = m := by
  cases c with
  | run | step | feed v => cases undriven
  | peek a => rw [answers_peek_iff.mp answers, machine_unchanged]
  | poke a v =>
    rw [answers_poke_iff.mp answers] at failed ⊢
    split at failed
    · cases failed
    · next outside => rw [if_neg outside, machine_unchanged]
  | moveTo pc =>
    rw [answers_moveTo_iff.mp answers] at failed
    cases failed

/-- A call that fails leaves the machine as it was, unless it breaks a live machine; and a broken
machine is what the completed instructions left, for good. -/
theorem failure_is_atomic_and_sticky {m : Machine} {c : Call} {r : Response Reply} {f : Fault}
    (answers : m.Answers c r) (failed : r.result = .error f) :
    (c.drives = true →
      m.fault = some f ∧ r.machine = m ∨
      (m.fault = none ∧ m.state = .terminated ∧ ∃ v, c = .feed v ∧ f = .fedAfterHalt v) ∧
        r.machine = m ∨
      m.Live ∧ m.Breaks c f r.machine) ∧
    (c.drives = false → r.machine = m) := by
  constructor
  · intro driven
    by_cases live : m.Live
    · exact .inr (.inr ⟨live, breaks_of_call live driven answers failed⟩)
    · rw [(answers_of_not_live live driven).mp answers] at failed ⊢
      rcases refusal_eq_error live driven failed with faulted | halted
      · exact .inl ⟨faulted, rfl⟩
      · exact .inr (.inl ⟨halted, rfl⟩)
  · intro undriven
    exact machine_of_undriven undriven answers failed

/-- A machine that waits is fed, completes two instructions, and breaks at the third. -/
theorem fed_machine_breaks :
    ∃ (m : Machine) (r : Response Reply),
      m.Answers (.feed 3) r ∧ r.result = .error (.outOfBounds 77 10) ∧
        m.memory.toList = [3, 9, 101, 5, 9, 9, 4, 77, 99, 0] ∧
        r.machine.memory.toList = [3, 9, 101, 5, 9, 9, 4, 77, 99, 8] ∧ r.machine.pc = 6 ∧
        m.Live ∧ m.Breaks (.feed 3) (.outOfBounds 77 10) r.machine := by
  have answers : ({ ofCells [3, 9, 101, 5, 9, 9, 4, 77, 99, 0] [] false with
      state := .waitingForInput } : Machine).Answers (.feed 3) _ := ⟨9, rfl⟩
  refine ⟨_, _, answers, rfl, rfl, rfl, rfl, ?_⟩
  rcases (failure_is_atomic_and_sticky answers rfl).1 rfl with
    ⟨faulted, -⟩ | ⟨⟨-, halted, -⟩, -⟩ | broken
  · cases faulted
  · cases halted
  · exact broken

end DecimalMachine.Machine
