import DecimalMachine.Proofs.Machine.Failure
import DecimalMachine.Proofs.Machine.Intake
import DecimalMachine.Proofs.Machine.Tracing
import DecimalMachine.Proofs.Text.Numerals

/-!
# What a machine reports

The log of a machine is a faithful account of it. It has one record for every value that was put out,
one for every line of the trace, and one of higher importance for the fault, which is the last; and a
run that ends without a fault ends with a record of where the machine stands. The records are told
apart by their texts alone.
-/

namespace DecimalMachine

open Text

namespace Log.Record

/-- The record is of a value put out: a program counter, and then "output". -/
def tellsOutput (r : Record) : Bool :=
  decide ("pc=".toList <+: r.message.toList) &&
    decide (" output ".toList <+:
      (r.message.toList.drop 3).dropWhile fun c ↦ c.isDigit || c == '-')

/-- The record is of a line of a trace. -/
def tellsTrace (r : Record) : Bool := decide ("trace ".toList <+: r.message.toList)

/-- The record is of the end of a run. -/
def tellsStop (r : Record) : Bool := decide ("run stopped: ".toList <+: r.message.toList)

/-- The record is of importance. -/
def isInfo (r : Record) : Bool := decide (r.level = Level.info)

end Log.Record

/-- The records of events, in the order in which they are written. -/
def told (events : Array Event) : List Log.Record := events.toList.map Event.record

/-- The records of lines that are noted. -/
def linesTold (lines : List String) : List Log.Record :=
  lines.map fun line ↦ (Event.traced line).record

namespace Machine

/-- Whether the next step is an output instruction that completes. -/
def writes (m : Machine) : Bool :=
  match m.step.result with
  | .ok .running => decide (m.opcode = 4)
  | _ => false

/-- Of the machines that steps are made on, those on which an output instruction completes. -/
def writers (steps : List Machine) : List Machine := steps.filter (·.writes)

/-- The record of the value that the next step puts out, with the address of the instruction. -/
def written (m : Machine) : Log.Record := (Event.output m.pc (m.value 1)).record

/-- The record of where a machine stands. -/
def standstill (m : Machine) : Log.Record := (Event.stopped m.state m.pc).record

/-- The records account for what the given steps have left of a machine. -/
structure Reported (records : List Log.Record) (steps : List Machine) (m : Machine) : Prop where
  outputs : records.filter (·.tellsOutput) = (writers steps).map written
  /-- The values put out are those of the output instructions. -/
  values : m.outputs.toList = (writers steps).map (·.value 1)
  trace : records.filter (·.tellsTrace) = linesTold m.trace.toList
  faults : records.filter (·.isInfo) = m.fault.toList.map fun f ↦ (Event.faulted m.pc f).record
  /-- Nothing comes after the fault. -/
  last : ∀ f, m.fault = some f → records.getLast? = some (Event.faulted m.pc f).record

/-- What comes of the plan of a machine is reported last. -/
def outcome (m : Machine) : List Event :=
  match m.plan with
  | .error f => [.faulted m.pc f]
  | .ok (_, e) => (e.events m.pc).toList

end Machine

namespace Exchange

/-- The records of an exchange. -/
def records (e : Exchange) : List Log.Record := told e.response.events

/-- The exchange is a run that comes to its end without a fault, on a machine that has not halted
yet: a call to run, or an input that is waited for. -/
def Returns (e : Exchange) : Prop :=
  e.before.state ≠ .terminated ∧
    (e.call = .run ∨ e.before.state = .waitingForInput ∧ ∃ v, e.call = .feed v) ∧
    ∃ reply, e.response.result = .ok reply

/-- The records of an exchange end as they should. -/
structure Concluded (e : Exchange) : Prop where
  /-- A machine that is not live writes nothing. -/
  silent : ¬e.before.Live → e.records = []
  /-- A run that returns has one record of where it has left the machine. -/
  returned : e.Returns → e.records.filter (·.tellsStop) = [e.response.machine.standstill]
  /-- This record comes last. -/
  last : e.Returns → e.records.getLast? = some e.response.machine.standstill
  /-- Other exchanges have none. -/
  other : ¬e.Returns → e.records.filter (·.tellsStop) = []

end Exchange

/-- The log of a history. -/
def recordsOf (es : List Exchange) : List Log.Record := es.flatMap (·.records)

/-! ### The texts of the records -/

namespace Event

/-- Only an output is told as one. -/
@[simp] theorem tellsOutput_record (e : Event) :
    e.record.tellsOutput = match e with | .output _ _ => true | _ => false := by
  unfold Log.Record.tellsOutput record message
  cases e with
  | entered left pc => cases left <;> simp [State.name]
  | _ => simp [dropWhile_decimal]

/-- Only a line of the trace is told as one. -/
@[simp] theorem tellsTrace_record (e : Event) : e.record.tellsTrace = e.isTraced := by
  unfold Log.Record.tellsTrace record message
  cases e with
  | entered left pc => cases left <;> simp [State.name, isTraced]
  | _ => simp [isTraced]

/-- Only the end of a run is told as one. -/
@[simp] theorem tellsStop_record (e : Event) :
    e.record.tellsStop = match e with | .stopped _ _ => true | _ => false := by
  unfold Log.Record.tellsStop record message
  cases e with
  | entered left pc => cases left <;> simp [State.name]
  | _ => simp

/-- Only a fault is of importance. -/
@[simp] theorem isInfo_record (e : Event) :
    e.record.isInfo = match e with | .faulted _ _ => true | _ => false := by
  cases e <;> rfl

end Event

private theorem told_append (events more : Array Event) :
    told (events ++ more) = told events ++ told more := by
  simp [told]

namespace Machine

variable {m n : Machine} {c : Call} {r : Response Reply} {events : Array Event}
  {records : List Log.Record} {done steps : List Machine}

/-! ### One step -/

private theorem exists_noted (m : Machine) (i : Instruction) :
    ∃ lines, (m.note i).trace.toList = m.trace.toList ++ lines ∧
      (m.noteEvents i).toList = lines.map Event.traced := by
  unfold note noteEvents
  split
  · exact ⟨[i.traceLine], by simp, rfl⟩
  · exact ⟨[], by simp, rfl⟩

/-- A step of a live machine reports that the machine starts, then the lines that it notes, and then
what comes of its plan. -/
theorem events_step (live : m.Live) :
    ∃ lines, m.step.machine.trace.toList = m.trace.toList ++ lines ∧
      m.step.events.toList = m.startEvents.toList ++ (lines.map Event.traced ++ m.outcome) := by
  -- Starting changes neither the memory nor the counter, so the step does what is planned before it.
  have decoded : Instruction.decode m.start.memory m.start.pc = Instruction.decode m.memory m.pc :=
    rfl
  unfold step outcome plan
  simp only [live.1, if_neg live.2]
  cases inside : m.memory.contains m.pc with
  | false => exact ⟨[], by simp [faultWith, start, ranOff]⟩
  | true =>
    simp only [if_true, cycle, decoded]
    cases Instruction.decode m.memory m.pc with
    | error f => exact ⟨[], by simp [faultWith, start]⟩
    | ok i =>
      have effect : i.effect m.start.memory m.start.inputs = i.effect m.memory m.inputs := rfl
      obtain ⟨lines, noted, told⟩ := exists_noted m.start i
      refine ⟨lines, ?_⟩
      simp only [effect]
      cases i.effect m.memory m.inputs with
      | error f =>
        obtain ⟨others, same⟩ := note_eq m.start i
        have pc : (m.start.note i).pc = m.pc := by rw [same]; rfl
        exact ⟨noted, by simp [faultWith, told, pc]⟩
      | ok e =>
        rw [trace_apply]
        refine ⟨noted, ?_⟩
        simp only [Array.toList_append, told]
        rfl

private theorem work_eq_emit {v : Int} (h : m.work = .emit v) : m.opcode = 4 ∧ v = m.value 1 := by
  unfold work at h
  split at h
  · cases h
  · cases h
  · split at h <;> cases h
  · next code => exact ⟨code, (Effect.emit.inj h).symm⟩
  · split at h <;> cases h
  · split at h <;> cases h
  · cases h
  · cases h
  · cases h

private theorem plan_emit {i : Instruction} {v : Int} (h : m.plan = .ok (i, .emit v)) :
    m.opcode = 4 ∧ v = m.value 1 := by
  rcases m.plan_eq with ⟨f, -, failed⟩ | ⟨o, j, -, -, -, planned⟩
  · cases h.symm.trans failed
  · have same := Except.ok.inj (planned.symm.trans h)
    exact work_eq_emit (Prod.mk.inj same).2

private theorem writes_iff_plan : m.writes = true ↔ m.Live ∧ ∃ i v, m.plan = .ok (i, .emit v) := by
  constructor
  · intro h
    unfold writes at h
    split at h
    · next completed =>
      have code : m.opcode = 4 := of_decide_eq_true h
      have live := (live_of_running completed).1
      rcases m.plan_eq with ⟨f, -, planned⟩ | ⟨o, i, -, -, -, planned⟩
      · rw [(step_of_plan_error live planned).1] at completed
        cases completed
      · have emits : m.work = .emit (m.value 1) := by simp only [work, code]
        exact ⟨live, i, m.value 1, emits ▸ planned⟩
    · cases h
  · rintro ⟨live, i, v, planned⟩
    have completed : m.step.result = .ok .running := by
      obtain ⟨lines, noted⟩ := note_eq m.start i
      rw [step_of_plan_ok live planned, noted]
      rfl
    simp only [writes, completed, (plan_emit planned).1, decide_true]

private theorem faces_of_writes (h : m.writes = true) : m.Faces .output := by
  obtain ⟨-, i, v, planned⟩ := writes_iff_plan.mp h
  obtain ⟨inside, decoded, effect⟩ := plan_eq_ok_iff.mp planned
  exact ⟨inside, i, decoded, (Instruction.warrants_of_effect effect).1⟩

/-- What comes of a step of a live machine: a fault that is kept, an output, or something else that
is neither. -/
theorem outcome_cases (live : m.Live) :
    (∃ f, m.outcome = [.faulted m.pc f] ∧ m.writes = false ∧ m.step.machine.fault = some f ∧
      m.step.machine.pc = m.pc ∧ m.step.machine.outputs = m.outputs) ∨
    (m.outcome = [.output m.pc (m.value 1)] ∧ m.writes = true ∧ m.step.machine.fault = none ∧
      m.step.machine.outputs = m.outputs.push (m.value 1)) ∨
    ((m.outcome = [] ∨ m.outcome = [.waiting m.pc]) ∧ m.writes = false ∧
      m.step.machine.fault = none ∧ m.step.machine.outputs = m.outputs) := by
  rcases m.step_cases with ⟨dead, -⟩ | ⟨-, f, lines, planned, left⟩ | ⟨-, i, e, lines, planned, left⟩
  · exact absurd live dead
  · left
    have silent : m.writes = false := by
      rw [← Bool.not_eq_true, writes_iff_plan]
      rintro ⟨-, i, v, other⟩
      cases planned.symm.trans other
    refine ⟨f, ?_, silent, ?_⟩
    · rw [outcome, planned]
    · rw [left]
      exact ⟨rfl, rfl, rfl⟩
  · right
    have nofault : m.step.machine.fault = none := by
      rw [left, fault_apply]
      exact live.1
    have came : m.outcome = (e.events m.pc).toList := by rw [outcome, planned]
    by_cases writes : m.writes = true
    · left
      obtain ⟨-, j, v, other⟩ := writes_iff_plan.mp writes
      cases planned.symm.trans other
      obtain ⟨-, rfl⟩ := plan_emit planned
      refine ⟨came, writes, nofault, ?_⟩
      rw [left]
      rfl
    · right
      have other (v : Int) : e ≠ .emit v := by
        rintro rfl
        exact writes (writes_iff_plan.mpr ⟨live, i, v, planned⟩)
      rw [came, left]
      refine ⟨?_, eq_false_of_ne_true writes, left ▸ nofault, ?_⟩
      · cases e with
        | emit v => exact absurd rfl (other v)
        | suspend => exact .inr rfl
        | _ => exact .inl rfl
      · cases e with
        | emit v => exact absurd rfl (other v)
        | _ => rfl

/-! ### The records of a step -/

private theorem filter_told_step (live : m.Live) :
    ∃ lines, m.step.machine.trace.toList = m.trace.toList ++ lines ∧
      ∀ p : Log.Record → Bool, (∀ s, p (Event.entered s m.pc).record = false) →
        (told m.step.events).filter p =
          (linesTold lines).filter p ++ (m.outcome.map Event.record).filter p := by
  obtain ⟨lines, noted, events⟩ := events_step live
  refine ⟨lines, noted, ?_⟩
  intro p others
  have starting : (m.startEvents.toList.map Event.record).filter p = [] := by
    unfold startEvents
    split
    · rfl
    · simp [others]
  simp only [told, events, List.map_append, List.filter_append, starting, List.nil_append,
    List.map_map]
  rfl

private theorem filter_outcome (m : Machine) {p : Log.Record → Bool}
    (faulted : ∀ f, p (Event.faulted m.pc f).record = false)
    (output : ∀ v, p (Event.output m.pc v).record = false)
    (waiting : p (Event.waiting m.pc).record = false) :
    (m.outcome.map Event.record).filter p = [] := by
  unfold outcome
  split
  · simp [faulted]
  · next i e _ =>
    cases e with
    | emit v => simp [Effect.events, output]
    | suspend => simp [Effect.events, waiting]
    | _ => rfl

private theorem filter_linesTold (lines : List String) {p : Log.Record → Bool}
    (traced : ∀ line, p (Event.traced line).record = false) : (linesTold lines).filter p = [] := by
  rw [List.filter_eq_nil_iff, linesTold, List.forall_mem_map]
  intro line _
  rw [traced, Bool.false_eq_true]
  exact not_false

private theorem outputs_told_step (live : m.Live) :
    (told m.step.events).filter (·.tellsOutput) = (writers [m]).map written ∧
      m.step.machine.outputs.toList = m.outputs.toList ++ (writers [m]).map (·.value 1) := by
  obtain ⟨lines, -, found⟩ := filter_told_step live
  rw [found _ (by simp), filter_linesTold lines (by simp), List.nil_append]
  rcases outcome_cases live with
    ⟨f, came, silent, -, -, same⟩ | ⟨came, writes, -, more⟩ | ⟨came | came, silent, -, same⟩
  · simp [came, silent, same, writers]
  · simp [came, writes, more, writers, written]
  · simp [came, silent, same, writers]
  · simp [came, silent, same, writers]

private theorem trace_told_step (live : m.Live) :
    linesTold m.step.machine.trace.toList =
      linesTold m.trace.toList ++ (told m.step.events).filter (·.tellsTrace) := by
  obtain ⟨lines, noted, found⟩ := filter_told_step live
  have all : (linesTold lines).filter (·.tellsTrace) = linesTold lines := by
    simp [linesTold, List.filter_eq_self, Event.isTraced]
  have none : (m.outcome.map Event.record).filter (·.tellsTrace) = [] :=
    filter_outcome m (by simp [Event.isTraced]) (by simp [Event.isTraced]) (by simp [Event.isTraced])
  rw [found _ (by simp [Event.isTraced]), all, none, noted, List.append_nil, linesTold,
    List.map_append]
  rfl

private theorem fault_told_step (live : m.Live) :
    (told m.step.events).filter (·.isInfo) =
        m.step.machine.fault.toList.map (fun f ↦ (Event.faulted m.step.machine.pc f).record) ∧
      ∀ f, m.step.machine.fault = some f →
        (told m.step.events).getLast? = some (Event.faulted m.step.machine.pc f).record := by
  obtain ⟨lines, -, events⟩ := events_step live
  obtain ⟨others, -, found⟩ := filter_told_step live
  rw [found _ (by simp), filter_linesTold others (by simp), List.nil_append]
  rcases outcome_cases live with
    ⟨f, came, -, broken, still, -⟩ | ⟨came, -, sane, -⟩ | ⟨came | came, -, sane, -⟩
  · simp [came, broken, still, told, events]
  · simp [came, sane]
  · simp [came, sane]
  · simp [came, sane]

private theorem stop_told_step (m : Machine) : (told m.step.events).filter (·.tellsStop) = [] := by
  by_cases live : m.Live
  · obtain ⟨lines, -, found⟩ := filter_told_step live
    rw [found _ (by simp), filter_linesTold lines (by simp),
      filter_outcome m (by simp) (by simp) (by simp), List.append_nil]
  · rw [step_of_not_live live]
    rfl

/-! ### The steps of a call -/

private theorem writers_append (steps more : List Machine) :
    writers (steps ++ more) = writers steps ++ writers more := List.filter_append ..

private theorem reported_nil (cells inputs : List Int) (tracing : Bool) :
    Reported [] [] (ofCells cells inputs tracing) where
  outputs := rfl
  values := rfl
  trace := rfl
  faults := rfl
  last := nofun

/-- A step goes on with the log. -/
theorem Reported.step (reported : Reported records steps m) (live : m.Live) :
    Reported (records ++ told m.step.events) (steps ++ [m]) m.step.machine where
  outputs := by
    rw [List.filter_append, reported.outputs, (outputs_told_step live).1, writers_append,
      List.map_append]
  values := by
    rw [(outputs_told_step live).2, reported.values, writers_append, List.map_append]
  trace := by rw [List.filter_append, reported.trace, trace_told_step live]
  faults := by
    rw [List.filter_append, reported.faults, live.1, (fault_told_step live).1]
    rfl
  last := by
    intro f broken
    rw [List.getLast?_append, (fault_told_step live).2 f broken]
    rfl

private theorem Reported.supply (reported : Reported records steps m) (later : List Int) :
    Reported records steps (m.supply later) :=
  ⟨reported.outputs, reported.values, reported.trace, reported.faults, reported.last⟩

private theorem Reported.stopped (reported : Reported records steps m) (nofault : m.fault = none)
    (s : State)
    (pc : Int) :
    Reported (records ++ [(Event.stopped s pc).record]) steps m where
  outputs := by simpa using reported.outputs
  values := reported.values
  trace := by simpa [Event.isTraced] using reported.trace
  faults := by simpa using reported.faults
  last := by
    intro f broken
    rw [nofault] at broken
    cases broken

private theorem Reported.silent (reported : Reported records steps m) :
    Reported (records ++ told #[]) (steps ++ []) m := by
  rw [List.append_nil]
  exact (List.append_nil records).symm ▸ reported

private theorem unchanged_of_not_live (dead : ¬m.Live) (untouched : c.tampers = false)
    (answers : m.Answers c r) : ∃ result, r = m.unchanged result := by
  cases c with
  | run | step | feed v => exact ⟨_, (answers_of_not_live dead rfl).mp answers⟩
  | peek a => exact ⟨_, answers_peek_iff.mp answers⟩
  | poke | moveTo => cases untouched

private theorem Reported.passes (reported : Reported records done m) (live : m.Live)
    (passes : m.Passes events n) (last : n.step.result ≠ .ok .running) :
    ∃ steps, m.Course steps n.step.machine ∧
      Reported (records ++ told (events ++ n.step.events)) (done ++ steps) n.step.machine := by
  -- Every completed instruction is a step that is accounted for before the others.
  induction passes generalizing records done with
  | refl m =>
    refine ⟨[m], .last last, ?_⟩
    rw [Array.empty_append]
    exact reported.step live
  | @head m n events completed _ ih =>
    obtain ⟨steps, course, later⟩ := ih (reported.step live) (live_of_running completed).2 last
    refine ⟨m :: steps, .next completed course, ?_⟩
    rw [Array.append_assoc, told_append, ← List.append_assoc, List.append_cons]
    exact later

private theorem Reported.run {allowance : Nat} {q : Response State}
    (reported : Reported records done m)
    (live : m.Live) (ran : m.run allowance = some q) (made : m.Course steps q.machine) :
    Reported (records ++ told q.events) (done ++ steps) q.machine := by
  obtain ⟨events, n, passes, last, rfl⟩ := passes_of_run ran
  obtain ⟨others, course, later⟩ := reported.passes live passes last
  -- The steps of the run are those that were accounted for, for there is only one course.
  obtain rfl := course.unique made
  cases answer : n.step.result with
  | error f =>
    rw [finish_of_error answer]
    exact later
  | ok s =>
    rw [finish_of_ok (live_of_passes passes live) answer, Array.push_eq_append, told_append,
      ← List.append_assoc]
    exact later.stopped (step_ok answer).2 s n.step.machine.pc

/-- A call that does not tamper with the machine goes on with the log. -/
theorem Reported.call (reported : Reported records done m) (untouched : c.tampers = false)
    (answers : m.Answers c r) (made : m.Makes c steps r.machine) :
    Reported (records ++ told r.events) (done ++ steps) r.machine := by
  unfold Makes at made
  by_cases live : m.Live
  · rw [if_pos live] at made
    cases c with
    | run =>
      obtain ⟨allowance, q, ran, rfl⟩ := answers_run_iff.mp answers
      exact reported.run live ran made
    | step =>
      obtain rfl := answers_step_iff.mp answers
      obtain rfl : steps = [m] := made
      exact reported.step live
    | feed v =>
      obtain ⟨allowance, q, fed, rfl⟩ := answers_feed_iff.mp answers
      by_cases waiting : m.state = .waitingForInput
      · simp only [if_pos waiting] at made
        rw [feed_of_waiting allowance v live.1 waiting] at fed
        exact (reported.supply [v]).run live fed made
      · simp only [if_neg waiting] at made
        rw [feed_of_not_waiting allowance v live waiting] at fed
        cases fed
        rw [made]
        exact (reported.supply [v]).silent
    | peek a =>
      obtain rfl := answers_peek_iff.mp answers
      obtain rfl : steps = [] := made
      exact reported.silent
    | poke | moveTo => cases untouched
  · rw [if_neg live] at made
    obtain ⟨result, rfl⟩ := unchanged_of_not_live live untouched answers
    rw [made]
    exact reported.silent

/-- A history in which nobody tampers with the machine goes on with the log. -/
theorem Reported.history {es : List Exchange} {log : List (List Machine)}
    (reported : Reported records done m) (calls : History m es n)
    (untouched : ∀ e ∈ es, e.call.tampers = false) (made : List.Forall₂ Exchange.Steps es log) :
    Reported (records ++ recordsOf es) (done ++ log.flatten) n := by
  induction calls generalizing records done log with
  | nil =>
    cases made
    exact reported.silent
  | cons answers _ ih =>
    cases made with
    | cons first rest =>
      obtain ⟨here, later⟩ := List.forall_mem_cons.mp untouched
      rw [recordsOf, List.flatMap_cons, List.flatten_cons, ← List.append_assoc, ← List.append_assoc]
      exact ih (reported.call here answers first) later rest

/-! ### How an exchange ends -/

private theorem stop_told_passes (passes : m.Passes events n) :
    (told (events ++ n.step.events)).filter (·.tellsStop) = [] := by
  induction passes with
  | refl m =>
    rw [Array.empty_append]
    exact stop_told_step m
  | @head m n events _ _ ih =>
    rw [Array.append_assoc, told_append, List.filter_append, stop_told_step, ih, List.append_nil]

private theorem stop_told_run {allowance : Nat} {q : Response State} (live : m.Live)
    (ran : m.run allowance = some q) :
    (∀ s, q.result = .ok s → (told q.events).filter (·.tellsStop) = [q.machine.standstill] ∧
      (told q.events).getLast? = some q.machine.standstill) ∧
    ∀ f, q.result = .error f → (told q.events).filter (·.tellsStop) = [] := by
  obtain ⟨events, n, passes, -, rfl⟩ := passes_of_run ran
  have before := stop_told_passes passes
  cases answer : n.step.result with
  | error f =>
    rw [finish_of_error answer]
    exact ⟨nofun, fun _ _ ↦ before⟩
  | ok s =>
    have stands : (Event.stopped s n.step.machine.pc).record = n.step.machine.standstill := by
      rw [standstill, (step_ok answer).1]
    -- The record of the end is the only one of its kind, for the steps before it have none.
    rw [finish_of_ok (live_of_passes passes live) answer]
    refine ⟨fun t _ ↦ ?_, nofun⟩
    simp only [Array.push_eq_append, told_append _ #[_], List.filter_append, before]
    simp [told, stands, standstill]

private theorem concluded_of_other {e : Exchange} (other : ¬e.Returns)
    (silent : ¬e.before.Live → e.records = []) (quiet : e.records.filter (·.tellsStop) = []) :
    e.Concluded where
  silent := silent
  returned := fun h ↦ absurd h other
  last := fun h ↦ absurd h other
  other := fun _ ↦ quiet

private theorem concluded_of_run {allowance : Nat} {q : Response State} (live : m.Live)
    (runs : c = .run ∨ m.state = .waitingForInput ∧ ∃ v, c = .feed v) (live' : n.Live)
    (ran : n.run allowance = some q) :
    Exchange.Concluded ⟨m, c, q.map .state⟩ := by
  obtain ⟨ended, failed⟩ := stop_told_run live' ran
  cases answer : q.result with
  | error f =>
    have failure : (q.map Reply.state).result = .error f := congrArg (Except.map Reply.state) answer
    have endless : ¬Exchange.Returns ⟨m, c, q.map .state⟩ := by
      rintro ⟨-, -, reply, returned⟩
      cases failure.symm.trans returned
    exact concluded_of_other endless (fun dead ↦ absurd live dead) (failed f answer)
  | ok s =>
    have success : (q.map Reply.state).result = .ok (.state s) :=
      congrArg (Except.map Reply.state) answer
    have ends : Exchange.Returns ⟨m, c, q.map .state⟩ := ⟨live.2, runs, _, success⟩
    exact ⟨fun dead ↦ absurd live dead, fun _ ↦ (ended s answer).1, fun _ ↦ (ended s answer).2,
      fun h ↦ absurd ends h⟩

private theorem not_returns_of_not_live (dead : ¬m.Live) (answers : m.Answers c r) :
    ¬Exchange.Returns ⟨m, c, r⟩ := by
  rintro ⟨alive, runs, reply, returned⟩
  have driven : c.drives = true := by
    rcases runs with rfl | ⟨-, v, rfl⟩
    · rfl
    · rfl
  rcases standing_of_not_live dead with ⟨-, halted, -⟩ | ⟨f, broken, -⟩
  · exact alive halted
  · rw [(answers_of_not_live dead driven).mp answers, result_unchanged, refusal_of_fault broken]
      at returned
    cases returned

private theorem concluded_of_answers (untouched : c.tampers = false) (answers : m.Answers c r) :
    Exchange.Concluded ⟨m, c, r⟩ := by
  by_cases live : m.Live
  · cases c with
    | run =>
      obtain ⟨allowance, q, ran, rfl⟩ := answers_run_iff.mp answers
      exact concluded_of_run live (.inl rfl) live ran
    | step =>
      obtain rfl := answers_step_iff.mp answers
      exact concluded_of_other (by simp [Exchange.Returns]) (fun dead ↦ absurd live dead)
        (stop_told_step m)
    | feed v =>
      obtain ⟨allowance, q, fed, rfl⟩ := answers_feed_iff.mp answers
      by_cases waiting : m.state = .waitingForInput
      · rw [feed_of_waiting allowance v live.1 waiting] at fed
        have live' : (m.supply [v]).Live := live
        exact concluded_of_run live (.inr ⟨waiting, v, rfl⟩) live' fed
      · rw [feed_of_not_waiting allowance v live waiting] at fed
        cases fed
        exact concluded_of_other (by simp [Exchange.Returns, waiting]) (fun _ ↦ rfl) rfl
    | peek a =>
      obtain rfl := answers_peek_iff.mp answers
      exact concluded_of_other (by simp [Exchange.Returns]) (fun _ ↦ rfl) rfl
    | poke | moveTo => cases untouched
  · have other := not_returns_of_not_live live answers
    obtain ⟨result, rfl⟩ := unchanged_of_not_live live untouched answers
    exact concluded_of_other other (fun _ ↦ rfl) rfl

/-- The records of every exchange of a history end as they should. -/
theorem concluded_of_history {es : List Exchange} (calls : History m es n)
    (untouched : ∀ e ∈ es, e.call.tampers = false) : ∀ e ∈ es, e.Concluded := by
  induction calls with
  | nil =>
    intro e h
    cases h
  | cons answers _ ih =>
    obtain ⟨here, later⟩ := List.forall_mem_cons.mp untouched
    exact List.forall_mem_cons.mpr ⟨concluded_of_answers here answers, ih later⟩

end Machine

/-! ### Whole histories -/

open Machine

/-- The log of a machine is a faithful account. However the machine is run, stepped, fed and looked at,
its log has one record for every output, with the value and the address of the output instruction,
one for every line of the trace, and one of importance if there is a fault, which is the last. Every
run that returns ends with a record of where it has left the machine, and a machine that has halted or
is faulted writes nothing more. -/
theorem log_is_faithful {program : String} {inputs : List Int} {tracing : Bool} {m n : Machine}
    {es : List Exchange} (built : ofText program inputs tracing = .ok m) (calls : History m es n)
    (untouched : ∀ e ∈ es, e.call.tampers = false) :
    (∃ log, List.Forall₂ Exchange.Steps es log ∧
      (∀ log', List.Forall₂ Exchange.Steps es log' → log' = log) ∧
      Reported (recordsOf es) log.flatten n ∧ ∀ s ∈ writers log.flatten, s.Faces .output) ∧
    ∀ e ∈ es, e.Concluded := by
  refine ⟨?_, concluded_of_history calls untouched⟩
  obtain ⟨log, made⟩ := steps_of_history calls
  obtain ⟨cells, -, rfl⟩ := ofText_eq_ok built
  refine ⟨log, made, fun _ made' ↦ steps_unique made made', ?_, ?_⟩
  · exact (reported_nil cells inputs tracing).history calls untouched made
  · intro s among
    exact faces_of_writes (List.mem_filter.mp among).2

/-- A machine that notes its instructions is run, polled and fed, puts the input out, and breaks at the
next instruction. -/
theorem log_is_faithful_broken :
    ∃ m n es log,
      ofText "3,9,4,9,4,77,99,0,0,0" [] true = .ok m ∧ History m es n ∧
        es.map (·.call) = [.run, .step, .feed 7, .run] ∧ (∀ e ∈ es, e.call.tampers = false) ∧
        n.outputs.toList = [7] ∧ n.fault = some (.outOfBounds 77 10) ∧
        (recordsOf es).map (·.message) =
          ["INITIALIZED -> RUNNING at pc=0", "trace 0000: IN -> [9]", "pc=0 waiting for input",
            "run stopped: WAITING_FOR_INPUT at pc=0",
            "WAITING_FOR_INPUT -> RUNNING at pc=0", "trace 0000: IN -> [9]", "pc=0 waiting for input",
            "WAITING_FOR_INPUT -> RUNNING at pc=0", "trace 0000: IN -> [9]", "trace 0002: OUT [9]",
            "pc=2 output 7", "trace 0004: OUT [77]",
            "machine fault at pc=4: Address 77 out of bounds (program length is 10)"] ∧
        List.Forall₂ Exchange.Steps es log ∧ Reported (recordsOf es) log.flatten n ∧
        ∀ e ∈ es, e.Concluded := by
  have built : ofText "3,9,4,9,4,77,99,0,0,0" [] true =
      .ok (ofCells [3, 9, 4, 9, 4, 77, 99, 0, 0, 0] [] true) := rfl
  have calls : History (ofCells [3, 9, 4, 9, 4, 77, 99, 0, 0, 0] [] true) _ _ :=
    .cons (c := .run) ⟨9, rfl⟩ (.cons (c := .step) ⟨0, rfl⟩ (.cons (c := .feed 7) ⟨9, rfl⟩
      (.cons (c := .run) ⟨0, rfl⟩ (.nil _))))
  obtain ⟨⟨log, made, -, reported, -⟩, concluded⟩ :=
    log_is_faithful built calls (by simp [Call.tampers])
  refine ⟨_, _, _, log, built, calls, rfl, by simp [Call.tampers], rfl, rfl, ?_, made, reported,
    concluded⟩
  decide +kernel

end DecimalMachine
