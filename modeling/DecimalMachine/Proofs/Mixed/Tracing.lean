import DecimalMachine.Mixed.Machine

/-!
# Tracing mixed machines

A mixed machine that notes its instructions does what one without a trace does, clashes included: what
it reports aside, a run gives the same response.
-/

namespace DecimalMachine.Mixed

/-- The machine without its trace. -/
def bare (m : Mixed) : Mixed := { m with tracing := false, trace := #[] }

/-- A response without the trace and without what was reported. -/
def Response.bare {α : Type} (r : Response α) : Response α := ⟨r.result, r.machine.bare, #[]⟩

private theorem bare_response {α : Type} {r q : Response α} (h : r.bare = q.bare) :
    r.result = q.result ∧ r.machine.bare = q.machine.bare := by
  have result := congrArg Response.result h
  have machine := congrArg Response.machine h
  exact ⟨result, machine⟩

private theorem bare_noted (m : Mixed) (line : String) :
    (if m.tracing then { m with trace := m.trace.push line } else m).bare = m.bare := by
  split
  · rfl
  · rfl

private theorem bare_inTrouble {α : Type} (m : Mixed) (t : Trouble)
    (seen seen' : Array Log.Record) :
    (m.inTrouble t seen : Response α).bare = (m.bare.inTrouble t seen').bare := by
  cases t <;> rfl

private theorem bare_apply (m : Mixed) (width : Nat) (e : Effect Datum) :
    (m.apply width e).bare = m.bare.apply width e := by
  cases e <;> rfl

private theorem state_apply_bare (m : Mixed) (width : Nat) (e : Effect Datum) :
    (m.bare.apply width e).state = (m.apply width e).state := by
  cases e <;> rfl

/-- One instruction is the same without a trace. -/
theorem cycle_bare (m : Mixed) : m.bare.cycle.bare = m.cycle.bare := by
  have decoded : m.bare.decode = m.decode := rfl
  unfold cycle
  rw [decoded]
  cases m.decode with
  | error t => exact (bare_inTrouble m t #[] #[]).symm
  | ok p =>
    obtain ⟨o, operands⟩ := p
    have effect : m.bare.effect o = m.effect o := rfl
    have console : m.bare.console = m.console := rfl
    have quiet : m.bare.tracing = false := rfl
    have same := m.bare_noted (m.traceLine o operands)
    simp only [effect, console, quiet, Bool.false_eq_true, if_false]
    -- From here on only the machine that has noted its instruction is spoken of.
    generalize (if m.tracing then { m with trace := m.trace.push (m.traceLine o operands) } else m)
      = noted at same
    cases m.effect o fun k ↦ operands.getD k ⟨.position, .number 0⟩ with
    | error t => rw [bare_inTrouble noted t _ #[], same, bare_inTrouble m.bare t _ #[]]
    | ok e =>
      simp only
      split
      · exact congrArg (fun k : Mixed ↦ (⟨.error (.clash .notDecimal),
          { k with outputs := k.outputs.push .void }, #[]⟩ : Response State)) same.symm
      · have after : (m.bare.apply (1 + operands.length) e).bare =
            (noted.apply (1 + operands.length) e).bare := by
          rw [bare_apply, bare_apply, same]
          rfl
        have state : (m.bare.apply (1 + operands.length) e).state =
            (noted.apply (1 + operands.length) e).state := by
          rw [state_apply_bare, ← state_apply_bare noted, same, state_apply_bare]
        simp only [Response.bare, after, state]

/-- Running on is the same without a trace. -/
theorem runFrom_bare (allowance : Nat) (m : Mixed) (seen seen' : Array Log.Record) :
    (runFrom allowance m.bare seen').map Response.bare =
      (runFrom allowance m seen).map Response.bare := by
  induction allowance generalizing m seen seen' with
  | zero => rfl
  | succ n ih =>
    have state : m.bare.state = m.state := rfl
    have inside : m.bare.contains m.bare.pc = m.contains m.pc := rfl
    obtain ⟨result, machine⟩ := bare_response m.cycle_bare
    simp only [runFrom, state, inside, result]
    split
    · split
      · cases m.cycle.result with
        | error t =>
          exact congrArg (fun k ↦ some (⟨.error t, k, #[]⟩ : Response State)) machine
        | ok s =>
          rw [← ih m.bare.cycle.machine _ #[], machine, ih m.cycle.machine]
      · exact congrArg some (bare_inTrouble m _ seen seen').symm
    · rfl

/-- A run is the same without a trace. -/
theorem run_bare (allowance : Nat) (m : Mixed) :
    (m.bare.run allowance).map Response.bare = (m.run allowance).map Response.bare :=
  runFrom_bare allowance { m with state := .running } _ _

end DecimalMachine.Mixed
