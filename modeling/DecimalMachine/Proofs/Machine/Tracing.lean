import DecimalMachine.Proofs.Machine.History
import Mathlib.Data.List.Forall2

/-!
# Tracing

A machine that notes its instructions does nothing else that one without a trace does not do. Without
traces and the events that tell them, every call on the two gives the same response, so that their
histories are the same.
-/

namespace DecimalMachine

/-- Whether an event tells that an instruction was noted. -/
def Event.isTraced : Event → Bool
  | traced _ => true
  | _ => false

/-- The events that a machine without a trace reports as well. -/
def quiet (events : Array Event) : Array Event := events.filter fun e ↦ !e.isTraced

/-- A response without the trace. -/
def Response.bare {α : Type} (r : Response α) : Response α :=
  ⟨r.result, r.machine.bare, quiet r.events⟩

/-- A call with its response, without the traces. -/
def Exchange.bare (e : Exchange) : Exchange := ⟨e.before.bare, e.call, e.response.bare⟩

/-- A call on a machine with a trace, and the same call on one without: the answers are the same, and
so is all that the machines hold afterwards but for the trace. -/
structure Exchange.Agrees (traced silent : Exchange) : Prop where
  call : silent.call = traced.call
  result : silent.response.result = traced.response.result
  memory : silent.response.machine.memory = traced.response.machine.memory
  pc : silent.response.machine.pc = traced.response.machine.pc
  state : silent.response.machine.state = traced.response.machine.state
  fault : silent.response.machine.fault = traced.response.machine.fault
  inputs : silent.response.machine.inputs = traced.response.machine.inputs
  outputs : silent.response.machine.outputs = traced.response.machine.outputs
  trace : silent.response.machine.trace = #[]

/-- Any calls on the two machines are all answered on both of them, and alike, or on neither. -/
structure Machine.Alike (traced silent : Machine) : Prop where
  stops : ∀ calls : List Call, (∃ es n, History traced es n ∧ es.map (·.call) = calls) ↔
    ∃ es n, History silent es n ∧ es.map (·.call) = calls
  answers : ∀ {es n es' k}, History traced es n → History silent es' k →
    es'.map (·.call) = es.map (·.call) → List.Forall₂ Exchange.Agrees es es'

/-! ### Events -/

private theorem quiet_append (events more : Array Event) :
    quiet (events ++ more) = quiet events ++ quiet more :=
  Array.filter_append Array.size_append

private theorem quiet_push {e : Event} (h : e.isTraced = false) (events : Array Event) :
    quiet (events.push e) = (quiet events).push e := by
  rw [quiet, Array.filter_push_of_pos (by simp [h]) (Array.size_push e), quiet]

namespace Machine

private theorem quiet_events (pc : Int) (e : Effect Int) : quiet (e.events pc) = e.events pc := by
  cases e <;> rfl

private theorem quiet_startEvents (m : Machine) : quiet m.startEvents = m.bare.startEvents := by
  show quiet m.startEvents = m.startEvents
  unfold startEvents
  split
  · rfl
  · rfl

private theorem quiet_noteEvents (m : Machine) (i : Instruction) :
    quiet (m.noteEvents i) = #[] := by
  unfold noteEvents
  split
  · rfl
  · rfl

/-! ### Calls -/

private theorem bare_note (m : Machine) (i : Instruction) : (m.note i).bare = m.bare := by
  unfold note
  split
  · rfl
  · rfl

private theorem bare_apply (m : Machine) (width : Nat) (e : Effect Int) :
    (m.apply width e).bare = m.bare.apply width e := by
  cases e <;> rfl

private theorem bare_faultWith {α : Type} (m : Machine) (f : Fault) (seen : Array Event) :
    (m.faultWith f seen : Response α).bare = m.bare.faultWith f (quiet seen) := by
  unfold faultWith Response.bare
  rw [quiet_push rfl]
  rfl

private theorem cycle_bare (m : Machine) : m.bare.cycle = m.cycle.bare := by
  have decoded : Instruction.decode m.bare.memory m.bare.pc = Instruction.decode m.memory m.pc := rfl
  unfold cycle
  rw [decoded]
  cases Instruction.decode m.memory m.pc with
  | error f => exact (bare_faultWith m f #[]).symm
  | ok i =>
    have effect : i.effect m.bare.memory m.bare.inputs = i.effect m.memory m.inputs := rfl
    have silent : m.bare.noteEvents i = #[] := rfl
    have same : m.bare.note i = m.bare := rfl
    simp only [effect, silent, same]
    cases i.effect m.memory m.inputs with
    | error f =>
      simp only [bare_faultWith, bare_note, quiet_noteEvents]
    | ok e =>
      have state : (m.bare.apply i.width e).state = ((m.note i).apply i.width e).state := by
        rw [← bare_note m i, ← bare_apply]
        rfl
      simp only [Response.bare, bare_apply, bare_note, quiet_append, quiet_noteEvents,
        quiet_events, state]
      rfl

/-- A step is the same without a trace. -/
theorem step_bare (m : Machine) : m.bare.step = m.step.bare := by
  have fault : m.bare.fault = m.fault := rfl
  have state : m.bare.state = m.state := rfl
  have inside : m.bare.memory.contains m.bare.pc = m.memory.contains m.pc := rfl
  unfold step
  rw [fault]
  cases m.fault with
  | some f => rfl
  | none =>
    simp only [state, inside]
    split
    · rfl
    · split
      · have started : m.bare.start.cycle = m.start.cycle.bare := m.start.cycle_bare
        simp only [started, Response.bare, quiet_append, quiet_startEvents]
      · rw [bare_faultWith, quiet_startEvents]
        rfl

/-- Running on is the same without a trace. -/
theorem runFrom_bare (allowance : Nat) (m : Machine) (seen : Array Event) :
    runFrom allowance m.bare (quiet seen) = (runFrom allowance m seen).map Response.bare := by
  induction allowance generalizing m seen with
  | zero => rfl
  | succ n ih =>
    have state : m.bare.state = m.state := rfl
    have inside : m.bare.memory.contains m.bare.pc = m.memory.contains m.pc := rfl
    simp only [runFrom, state, inside]
    split
    · split
      · rw [cycle_bare]
        have result : m.cycle.bare.result = m.cycle.result := rfl
        have machine : m.cycle.bare.machine = m.cycle.machine.bare := rfl
        have events : m.cycle.bare.events = quiet m.cycle.events := rfl
        rw [result, machine, events, ← quiet_append]
        cases m.cycle.result with
        | error f => rfl
        | ok s => exact ih ..
      · rw [Option.map_some, bare_faultWith]
        rfl
    · rw [Option.map_some, Response.bare, quiet_push rfl]
      rfl

/-- A run is the same without a trace. -/
theorem run_bare (allowance : Nat) (m : Machine) :
    m.bare.run allowance = (m.run allowance).map Response.bare := by
  have fault : m.bare.fault = m.fault := rfl
  have state : m.bare.state = m.state := rfl
  unfold run
  rw [fault]
  cases m.fault with
  | some f => rfl
  | none =>
    simp only [state]
    split
    · rfl
    · rw [← quiet_startEvents]
      exact runFrom_bare allowance m.start m.startEvents

private theorem feed_bare (allowance : Nat) (m : Machine) (v : Int) :
    m.bare.feed allowance v = (m.feed allowance v).map Response.bare := by
  have fault : m.bare.fault = m.fault := rfl
  have state : m.bare.state = m.state := rfl
  unfold feed
  rw [fault]
  cases m.fault with
  | some f => rfl
  | none =>
    simp only [state]
    split
    · rfl
    · split
      · exact run_bare allowance { m with inputs := m.inputs ++ [v], fault := none }
      · rfl

/-- Patching is the same without a trace. -/
theorem poke_bare (m : Machine) (a v : Int) : m.bare.poke a v = (m.poke a v).map bare := by
  have written : m.bare.memory.write a v = m.memory.write a v := rfl
  unfold poke
  rw [written]
  cases m.memory.write a v with
  | error f => rfl
  | ok memory => rfl

/-- Every call is the same without a trace. -/
theorem call_bare (allowance : Nat) (m : Machine) (c : Call) :
    m.bare.call allowance c = (m.call allowance c).map Response.bare := by
  cases c with
  | run =>
    simp only [call, run_bare, Option.map_map]
    rfl
  | step =>
    simp only [call, step_bare, Option.map_some]
    rfl
  | feed v =>
    simp only [call, feed_bare, Option.map_map]
    rfl
  | peek a => rfl
  | poke a v =>
    simp only [call, poke_bare]
    cases m.poke a v with
    | error f => rfl
    | ok next => rfl
  | moveTo pc => rfl

/-! ### Histories -/

/-- A program text gives a machine without a trace just if it gives one with a trace. -/
theorem ofText_bare (program : String) (inputs : List Int) (tracing : Bool) :
    (ofText program inputs tracing).map bare = ofText program inputs false := by
  unfold ofText
  cases Program.parse program with
  | error f => rfl
  | ok cells => rfl

/-- A call is answered in one way, whatever the allowance. -/
theorem answers_unique {m : Machine} {c : Call} {r q : Response Reply} (answers : m.Answers c r)
    (answers' : m.Answers c q) : r = q := by
  cases c with
  | run =>
    obtain ⟨k, r, ran, rfl⟩ := answers_run_iff.mp answers
    obtain ⟨k', q, ran', rfl⟩ := answers_run_iff.mp answers'
    rw [run_unique ran ran']
  | step => rw [answers_step_iff.mp answers, answers_step_iff.mp answers']
  | feed v =>
    by_cases live : m.Live
    · obtain ⟨k, r, fed, rfl⟩ := answers_feed_iff.mp answers
      obtain ⟨k', q, fed', rfl⟩ := answers_feed_iff.mp answers'
      by_cases waiting : m.state = .waitingForInput
      · rw [feed_of_waiting k v live.1 waiting] at fed
        rw [feed_of_waiting k' v live.1 waiting] at fed'
        rw [run_unique fed fed']
      · rw [feed_of_not_waiting k v live waiting] at fed
        rw [feed_of_not_waiting k' v live waiting] at fed'
        rw [Option.some.inj (fed.symm.trans fed')]
    · rw [(answers_of_not_live live rfl).mp answers, (answers_of_not_live live rfl).mp answers']
  | peek a => rw [answers_peek_iff.mp answers, answers_peek_iff.mp answers']
  | poke a v => rw [answers_poke_iff.mp answers, answers_poke_iff.mp answers']
  | moveTo pc => rw [answers_moveTo_iff.mp answers, answers_moveTo_iff.mp answers']

private theorem answers_bare_iff {m : Machine} {c : Call} {q : Response Reply} :
    m.bare.Answers c q ↔ ∃ r, m.Answers c r ∧ q = r.bare := by
  simp only [Answers, call_bare, Option.map_eq_some_iff]
  constructor
  · rintro ⟨allowance, r, called, rfl⟩
    exact ⟨r, ⟨allowance, called⟩, rfl⟩
  · rintro ⟨r, ⟨allowance, called⟩, rfl⟩
    exact ⟨allowance, r, called, rfl⟩

/-- The histories of a machine without a trace are those of the machine, without the traces. -/
theorem history_bare_iff {m k : Machine} {es' : List Exchange} :
    History m.bare es' k ↔
      ∃ es n, History m es n ∧ es' = es.map Exchange.bare ∧ k = n.bare := by
  constructor
  · intro calls
    generalize start : m.bare = m' at calls
    induction calls generalizing m with
    | nil => exact ⟨[], m, .nil m, rfl, start.symm⟩
    | cons answers _ ih =>
      subst start
      obtain ⟨r, answers', rfl⟩ := answers_bare_iff.mp answers
      obtain ⟨es, n, calls, rfl, rfl⟩ := ih rfl
      exact ⟨_, n, .cons answers' calls, rfl, rfl⟩
  · rintro ⟨es, n, calls, rfl, rfl⟩
    induction calls with
    | nil => exact .nil _
    | cons answers _ ih => exact .cons (answers_bare_iff.mpr ⟨_, answers, rfl⟩) ih

/-- The same calls are answered in the same way. -/
theorem history_unique {m n k : Machine} {es es' : List Exchange} (calls : History m es n)
    (calls' : History m es' k) (same : es.map (·.call) = es'.map (·.call)) : es = es' := by
  induction calls generalizing es' with
  | nil =>
    cases calls' with
    | nil => rfl
    | cons _ _ => cases same
  | cons answers _ ih =>
    cases calls' with
    | nil => cases same
    | cons answers' rest' =>
      rw [List.map_cons, List.map_cons] at same
      obtain ⟨call, later⟩ := List.cons.inj same
      cases call
      cases answers_unique answers answers'
      rw [ih rest' later]

private theorem agrees_bare (e : Exchange) : e.Agrees e.bare :=
  ⟨rfl, rfl, rfl, rfl, rfl, rfl, rfl, rfl, rfl⟩

private theorem alike_bare (m : Machine) : m.Alike m.bare where
  stops calls := by
    constructor
    · rintro ⟨es, n, made, rfl⟩
      refine ⟨es.map Exchange.bare, n.bare, history_bare_iff.mpr ⟨es, n, made, rfl, rfl⟩, ?_⟩
      rw [List.map_map]
      rfl
    · rintro ⟨es', k, made, rfl⟩
      obtain ⟨es, n, made', rfl, -⟩ := history_bare_iff.mp made
      refine ⟨es, n, made', ?_⟩
      rw [List.map_map]
      rfl
  answers {es n es' k} made made' same := by
    have silent := history_bare_iff.mpr ⟨es, n, made, rfl, rfl⟩
    have unique : es' = es.map Exchange.bare := by
      refine history_unique made' silent (same.trans ?_)
      rw [List.map_map]
      rfl
    rw [unique, List.forall₂_map_right_iff, List.forall₂_same]
    exact fun e _ ↦ agrees_bare e

/-- A program text is refused with a trace as it is without. -/
theorem ofText_eq_error_iff {program : String} {inputs : List Int} {f : Fault} :
    ofText program inputs true = .error f ↔ ofText program inputs false = .error f := by
  unfold ofText
  cases Program.parse program with
  | error g => rfl
  | ok cells => exact ⟨nofun, nofun⟩

/-- Machines over the same program text, with a trace and without, are alike. -/
theorem alike_ofText {program : String} {inputs : List Int} {m m' : Machine}
    (traced : ofText program inputs true = .ok m) (silent : ofText program inputs false = .ok m') :
    m.Alike m' := by
  have bare := ofText_bare program inputs true
  rw [traced, silent] at bare
  have same : m.bare = m' := Except.ok.inj bare
  rw [← same]
  exact m.alike_bare

end Machine
end DecimalMachine
