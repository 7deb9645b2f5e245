import DecimalMachine.Proofs.Machine.Invariant
import DecimalMachine.Proofs.Machine.Semantics
import Mathlib.Data.List.Forall2

/-!
# What becomes of the inputs

The inputs that a machine has been given, those of its making and those it was fed while it was
live, are read in their order, one by every input instruction that completes, and by nothing else.
What has not been read yet is the queue. So the queue is always told by counting: it is what was
given, without as many as input instructions have completed.
-/

namespace DecimalMachine

namespace Machine

/-- Whether the next step is an input instruction that completes. -/
def reads (m : Machine) : Bool :=
  match m.step.result with
  | .ok .running => decide (m.opcode = 3)
  | _ => false

/-- Of the machines that steps are made on, those on which an input instruction completes. -/
def readers (steps : List Machine) : List Machine := steps.filter (·.reads)

/-- The next step takes the value out of the queue, and stores it at the destination. -/
structure Stores (m : Machine) (v : Int) : Prop where
  taken : m.inputs = v :: m.step.machine.inputs
  inside : m.memory.contains (m.operand 1) = true
  stored : m.step.machine.memory = m.memory.set (m.operand 1) v

/-- The machines on which a run makes its steps, in order, and the machine that it leaves. -/
inductive Course : Machine → List Machine → Machine → Prop
  | last {m : Machine} (h : m.step.result ≠ .ok .running) : Course m [m] m.step.machine
  | next {m n : Machine} {steps : List Machine} (h : m.step.result = .ok .running)
      (rest : Course m.step.machine steps n) : Course m (m :: steps) n

/-- After the given steps a machine has read its inputs in order, and still has the others. -/
structure Accounts (given : List Int) (steps : List Machine) (m : Machine) : Prop where
  pending : m.inputs = given.drop (readers steps).length
  within : (readers steps).length ≤ given.length
  /-- Every input is stored by the input instruction of its place. -/
  stored : ∀ (k : Nat) (reader : Machine), (readers steps)[k]? = some reader →
    ∃ v, given[k]? = some v ∧ reader.Stores v
  /-- No other step touches the queue. -/
  others : ∀ s ∈ steps, s.reads = false → s.step.machine.inputs = s.inputs

/-- The machines on which a call makes its steps, in order, and the machine that it leaves. A
machine that is not live makes none, and one that is fed makes some only if it waits. -/
def Makes (m : Machine) (c : Call) (steps : List Machine) (n : Machine) : Prop :=
  if m.Live then
    match c with
    | .run => m.Course steps n
    | .step => steps = [m]
    | .feed v =>
      if m.state = .waitingForInput then (m.supply [v]).Course steps n else steps = []
    | .peek _ | .poke _ _ | .moveTo _ => steps = []
  else steps = []

end Machine

/-- The machines on which steps are made in an exchange. -/
def Exchange.Steps (e : Exchange) (steps : List Machine) : Prop :=
  e.before.Makes e.call steps e.response.machine

namespace Machine

/-! ### One step -/

/-- A step reads if it completes, and the two lowest digits of its word are those of an input. -/
theorem reads_iff {m : Machine} :
    m.reads = true ↔ m.step.result = .ok .running ∧ m.opcode = 3 := by
  unfold reads
  split
  · next running => simp [running]
  · next other =>
    constructor
    · intro h
      cases h
    · rintro ⟨running, -⟩
      exact absurd running other

private theorem work_eq_take {m : Machine} {a v : Int} (h : m.work = .take a v) :
    m.opcode = 3 ∧ a = m.operand 1 ∧ ∃ rest, m.inputs = v :: rest := by
  unfold work at h
  split at h
  · cases h
  · cases h
  · next code =>
    cases queue : m.inputs with
    | nil =>
      rw [queue] at h
      cases h
    | cons w rest =>
      rw [queue] at h
      cases h
      exact ⟨code, rfl, rest, rfl⟩
  · cases h
  · split at h <;> cases h
  · split at h <;> cases h
  · cases h
  · cases h
  · cases h

private theorem plan_take {m : Machine} {i : Instruction} {a v : Int}
    (h : m.plan = .ok (i, .take a v)) :
    m.opcode = 3 ∧ a = m.operand 1 ∧ ∃ rest, m.inputs = v :: rest := by
  rcases m.plan_eq with ⟨f, -, failed⟩ | ⟨o, j, -, -, -, planned⟩
  · cases h.symm.trans failed
  · have same := Except.ok.inj (planned.symm.trans h)
    exact work_eq_take (Prod.mk.inj same).2

private theorem reads_iff_plan {m : Machine} :
    m.reads = true ↔ m.Live ∧ ∃ i a v, m.plan = .ok (i, .take a v) := by
  constructor
  · intro h
    obtain ⟨completed, code⟩ := reads_iff.mp h
    have live := (live_of_running completed).1
    rcases m.plan_eq with ⟨f, -, planned⟩ | ⟨o, i, -, -, -, planned⟩
    · rw [(step_of_plan_error live planned).1] at completed
      cases completed
    · cases queue : m.inputs with
      | nil =>
        have waits : m.work = .suspend := by simp only [work, code, queue]
        have waiting := step_waiting_iff.mpr ⟨live, i, waits ▸ planned⟩
        cases completed.symm.trans waiting
      | cons v rest =>
        have takes : m.work = .take (m.operand 1) v := by simp only [work, code, queue]
        exact ⟨live, i, m.operand 1, v, takes ▸ planned⟩
  · rintro ⟨live, i, a, v, planned⟩
    refine reads_iff.mpr ⟨?_, (plan_take planned).1⟩
    obtain ⟨lines, noted⟩ := note_eq m.start i
    rw [step_of_plan_ok live planned, noted]
    rfl

private theorem stores_of_reads {m : Machine} (h : m.reads = true) : ∃ v, m.Stores v := by
  obtain ⟨live, i, a, v, planned⟩ := reads_iff_plan.mp h
  obtain ⟨-, rfl, rest, queue⟩ := plan_take planned
  have warranted := Instruction.warrants_of_effect (plan_eq_ok_iff.mp planned).2.2
  obtain ⟨lines, noted⟩ := note_eq m.start i
  refine ⟨v, ?_, warranted.2.1, ?_⟩
  · rw [step_of_plan_ok live planned, noted]
    simp [apply, start, queue]
  · rw [step_of_plan_ok live planned, noted]
    rfl

private theorem inputs_of_other {m : Machine} (h : m.reads = false) :
    m.step.machine.inputs = m.inputs := by
  rcases m.step_cases with ⟨-, left⟩ | ⟨-, f, lines, -, left⟩ | ⟨live, i, e, lines, planned, left⟩
  · rw [left]
  · rw [left]
    rfl
  · rw [left]
    cases e with
    | take a v =>
      rw [reads_iff_plan.mpr ⟨live, i, a, v, planned⟩] at h
      cases h
    | _ => rfl

/-! ### Keeping account -/

private theorem readers_append (steps more : List Machine) :
    readers (steps ++ more) = readers steps ++ readers more := List.filter_append ..

private theorem readers_concat_of_reads (steps : List Machine) {m : Machine} (h : m.reads = true) :
    readers (steps ++ [m]) = readers steps ++ [m] := by
  rw [readers_append]
  simp [readers, h]

private theorem readers_concat_of_other (steps : List Machine) {m : Machine} (h : m.reads = false) :
    readers (steps ++ [m]) = readers steps := by
  rw [readers_append]
  simp [readers, h]

private theorem accounts_nil (m : Machine) : Accounts m.inputs [] m where
  pending := rfl
  within := Nat.zero_le _
  stored := by
    intro k reader h
    cases h
  others := by
    intro s h
    cases h

private theorem Accounts.congr {given : List Int} {steps : List Machine} {m n : Machine}
    (accounts : Accounts given steps m) (same : n.inputs = m.inputs) : Accounts given steps n :=
  { accounts with pending := same.trans accounts.pending }

private theorem Accounts.supply {given : List Int} {steps : List Machine} {m : Machine}
    (accounts : Accounts given steps m) (later : List Int) :
    Accounts (given ++ later) steps (m.supply later) where
  pending := by
    rw [List.drop_append_of_le_length accounts.within, ← accounts.pending]
    rfl
  within := by
    rw [List.length_append]
    exact Nat.le_add_right_of_le accounts.within
  stored := by
    intro k reader h
    obtain ⟨v, there, stores⟩ := accounts.stored k reader h
    refine ⟨v, ?_, stores⟩
    rw [List.getElem?_append_left (List.getElem?_eq_some_iff.mp there).1, there]
  others := accounts.others

private theorem Accounts.other {given : List Int} {steps : List Machine} {m : Machine}
    (accounts : Accounts given steps m) (h : m.reads = false) :
    Accounts given (steps ++ [m]) m.step.machine where
  pending := by rw [readers_concat_of_other steps h, inputs_of_other h, accounts.pending]
  within := by
    rw [readers_concat_of_other steps h]
    exact accounts.within
  stored := by
    rw [readers_concat_of_other steps h]
    exact accounts.stored
  others := fun _ _ quiet ↦ inputs_of_other quiet

private theorem Accounts.read {given : List Int} {steps : List Machine} {m : Machine}
    (accounts : Accounts given steps m) (h : m.reads = true) :
    Accounts given (steps ++ [m]) m.step.machine := by
  obtain ⟨v, stores⟩ := stores_of_reads h
  have rest : given.drop (readers steps).length = v :: m.step.machine.inputs := by
    rw [← accounts.pending, stores.taken]
  have there : given[(readers steps).length]? = some v := by
    rw [← List.head?_drop, rest, List.head?_cons]
  have inside := (List.getElem?_eq_some_iff.mp there).1
  have count : (readers (steps ++ [m])).length = (readers steps).length + 1 := by
    rw [readers_concat_of_reads steps h, List.length_append, List.length_singleton]
  refine ⟨?_, ?_, ?_, fun _ _ quiet ↦ inputs_of_other quiet⟩
  · rw [count, ← List.drop_drop, rest]
    rfl
  · rw [count]
    exact inside
  · intro k reader found
    rw [readers_concat_of_reads steps h] at found
    rcases Nat.lt_trichotomy k (readers steps).length with before | here | behind
    · rw [List.getElem?_append_left before] at found
      exact accounts.stored k reader found
    · subst here
      rw [List.getElem?_concat_length] at found
      cases found
      exact ⟨v, there, stores⟩
    · rw [List.getElem?_eq_none (by simp; omega)] at found
      cases found

/-- The account is kept by a step. -/
theorem Accounts.step {given : List Int} {steps : List Machine} {m : Machine}
    (accounts : Accounts given steps m) : Accounts given (steps ++ [m]) m.step.machine := by
  cases h : m.reads with
  | false => exact accounts.other h
  | true => exact accounts.read h

private theorem Accounts.course {given : List Int} {done steps : List Machine} {m n : Machine}
    (accounts : Accounts given done m) (course : m.Course steps n) :
    Accounts given (done ++ steps) n := by
  induction course generalizing done with
  | last => exact accounts.step
  | @next m n steps _ _ ih =>
    have later := ih accounts.step
    rw [List.append_assoc, List.singleton_append] at later
    exact later

/-! ### The steps of a call -/

private theorem course_of_passes {m n : Machine} {events : Array Event} (passes : m.Passes events n)
    (last : n.step.result ≠ .ok .running) : ∃ steps, m.Course steps n.step.machine := by
  induction passes with
  | refl m => exact ⟨[m], .last last⟩
  | head completed _ ih =>
    obtain ⟨steps, course⟩ := ih last
    exact ⟨_, .next completed course⟩

private theorem course_of_run {m : Machine} {allowance : Nat} {r : Response State}
    (ran : m.run allowance = some r) : ∃ steps, m.Course steps r.machine := by
  obtain ⟨events, n, passes, last, rfl⟩ := run_iff.mp ⟨allowance, ran⟩
  exact course_of_passes passes last

/-- There is only one course of a run. -/
theorem Course.unique {m n k : Machine} {steps steps' : List Machine} (course : m.Course steps n)
    (course' : m.Course steps' k) : steps' = steps := by
  induction course generalizing steps' with
  | last h =>
    cases course' with
    | last => rfl
    | next running => exact absurd running h
  | next running _ ih =>
    cases course' with
    | last h => exact absurd running h
    | next _ rest => rw [ih rest]

private theorem makes_of_answers {m : Machine} {c : Call} {r : Response Reply}
    (answers : m.Answers c r) :
    ∃ steps, m.Makes c steps r.machine := by
  unfold Makes
  by_cases live : m.Live
  · simp only [if_pos live]
    cases c with
    | run =>
      obtain ⟨allowance, q, ran, rfl⟩ := answers_run_iff.mp answers
      exact course_of_run ran
    | feed v =>
      obtain ⟨allowance, q, fed, rfl⟩ := answers_feed_iff.mp answers
      by_cases waiting : m.state = .waitingForInput
      · rw [feed_of_waiting allowance v live.1 waiting] at fed
        simp only [if_pos waiting]
        exact course_of_run fed
      · simp only [if_neg waiting]
        exact ⟨[], rfl⟩
    | step | peek | poke | moveTo => exact ⟨_, rfl⟩
  · simp only [if_neg live]
    exact ⟨[], rfl⟩

/-- A call makes no other steps. -/
theorem Makes.unique {m n k : Machine} {c : Call} {steps steps' : List Machine}
    (h : m.Makes c steps n) (h' : m.Makes c steps' k) : steps' = steps := by
  unfold Makes at h h'
  by_cases live : m.Live
  · rw [if_pos live] at h h'
    cases c with
    | run => exact h.unique h'
    | feed v =>
      by_cases waiting : m.state = .waitingForInput
      · simp only [if_pos waiting] at h h'
        exact h.unique h'
      · simp only [if_neg waiting] at h h'
        rw [h, h']
    | step | peek | poke | moveTo => exact Eq.trans h' (Eq.symm h)
  · rw [if_neg live] at h h'
    rw [h, h']

private theorem Accounts.undriven {given : List Int} {done : List Machine} {m n : Machine}
    {c : Call}
    (accounts : Accounts given done m) (h : m.Becomes c n) (undriven : m.Live → c.drives = false) :
    Accounts given done n := by
  cases h with
  | stay => exact accounts
  | drive live driven =>
    rw [undriven live] at driven
    cases driven
  | queue live => cases undriven live
  | patch => exact accounts.congr rfl
  | move => exact accounts.congr rfl

private theorem Accounts.call {given : List Int} {done steps : List Machine} {m : Machine}
    {c : Call}
    {r : Response Reply} (accounts : Accounts given done m) (answers : m.Answers c r)
    (made : m.Makes c steps r.machine) :
    Accounts (given ++ if m.Live then c.handed else []) (done ++ steps) r.machine := by
  have becomes := becomes_of_answers answers
  unfold Makes at made
  by_cases live : m.Live
  · rw [if_pos live] at made ⊢
    cases c with
    | run =>
      rw [Call.handed_run, List.append_nil]
      exact accounts.course made
    | step =>
      obtain rfl := answers_step_iff.mp answers
      obtain rfl : steps = [m] := made
      rw [Call.handed_step, List.append_nil]
      exact accounts.step
    | feed v =>
      by_cases waiting : m.state = .waitingForInput
      · simp only [if_pos waiting] at made
        exact (accounts.supply [v]).course made
      · obtain ⟨allowance, q, fed, rfl⟩ := answers_feed_iff.mp answers
        rw [feed_of_not_waiting allowance v live waiting] at fed
        cases fed
        simp only [if_neg waiting] at made
        rw [made, List.append_nil]
        exact accounts.supply [v]
    | peek | poke | moveTo =>
      obtain rfl : steps = [] := made
      simp only [Call.handed, List.append_nil]
      exact accounts.undriven becomes fun _ ↦ rfl
  · rw [if_neg live] at made ⊢
    rw [made, List.append_nil, List.append_nil]
    exact accounts.undriven becomes fun alive ↦ absurd alive live

/-- The account is kept by a history. -/
theorem Accounts.history {given : List Int} {done : List Machine} {m n : Machine}
    {es : List Exchange} {log : List (List Machine)} (accounts : Accounts given done m)
    (calls : History m es n) (made : List.Forall₂ Exchange.Steps es log) :
    Accounts (given ++ accepted es) (done ++ log.flatten) n := by
  induction calls generalizing given done log with
  | nil =>
    cases made
    simpa [accepted] using accounts
  | cons answers _ ih =>
    cases made with
    | cons first rest =>
      rw [accepted_cons, List.flatten_cons, ← List.append_assoc, ← List.append_assoc]
      exact ih (accounts.call answers first) rest

end Machine

/-! ### Whole histories -/

open Machine

/-- All the calls of a history make certain steps. -/
theorem steps_of_history {m n : Machine} {es : List Exchange} (calls : History m es n) :
    ∃ log, List.Forall₂ Exchange.Steps es log := by
  induction calls with
  | nil => exact ⟨[], .nil⟩
  | cons answers _ ih =>
    obtain ⟨steps, first⟩ := makes_of_answers answers
    obtain ⟨log, rest⟩ := ih
    exact ⟨steps :: log, .cons first rest⟩

/-- They make no other steps. -/
theorem steps_unique {es : List Exchange} {log log' : List (List Machine)}
    (made : List.Forall₂ Exchange.Steps es log) (made' : List.Forall₂ Exchange.Steps es log') :
    log' = log := by
  induction made generalizing log' with
  | nil =>
    cases made'
    rfl
  | cons first _ ih =>
    cases made' with
    | cons first' rest' => rw [Makes.unique first first', ih rest']

/-- Whatever is done to a machine, patched and moved as it may be, its inputs are read in order. At
any time the queue is what was given so far without as many inputs as input instructions have
completed; each of these has stored the input of its place; what was read once is never unread; and
a machine that waits has read everything. -/
theorem inputs_in_order {program : String} {inputs : List Int} {tracing : Bool} {m n : Machine}
    {es : List Exchange} (built : ofText program inputs tracing = .ok m)
    (calls : History m es n) :
    ∃ log, List.Forall₂ Exchange.Steps es log ∧
      (∀ log', List.Forall₂ Exchange.Steps es log' → log' = log) ∧
      (∀ i j, i ≤ j → readers (log.take i).flatten <+: readers (log.take j).flatten) ∧
      ∀ i now, History m (es.take i) now →
        Accounts (inputs ++ accepted (es.take i)) (log.take i).flatten now ∧
          (now.state = .waitingForInput →
            (readers (log.take i).flatten).length = (inputs ++ accepted (es.take i)).length) := by
  obtain ⟨log, made⟩ := steps_of_history calls
  refine ⟨log, made, fun _ made' ↦ steps_unique made made', ?_, ?_⟩
  · intro i j ij
    obtain ⟨more, longer⟩ := List.take_prefix_take_left (l := log) ij
    rw [← longer, List.flatten_append, readers_append]
    exact List.prefix_append _ _
  · intro i now past
    obtain ⟨cells, -, rfl⟩ := ofText_eq_ok built
    -- The first calls of the history make the steps at the front of the log.
    have accounts := (accounts_nil _).history past (List.forall₂_take i made)
    refine ⟨accounts, ?_⟩
    intro waiting
    have orderly := (orderly_ofCells cells inputs tracing).history past
    have dry := accounts.pending.symm.trans (orderly.starved waiting).2
    exact Nat.le_antisymm accounts.within (List.drop_eq_nil_iff.mp dry)

/-- A machine that reads over and over is fed while it waits; before that its destination is
patched, and it is moved to its jump. -/
theorem inputs_in_order_loop :
    ∃ m n es log,
      ofText "3,7,1105,1,0,0,0,0" [5] false = .ok m ∧ History m es n ∧
        es.map (·.call) = [.run, .poke 1 6, .moveTo 2, .feed 9] ∧ accepted es = [9] ∧
        n.state = .waitingForInput ∧ n.memory.toList = [3, 6, 1105, 1, 0, 0, 9, 5] ∧
        List.Forall₂ Exchange.Steps es log ∧
        Accounts ([5] ++ accepted (es.take 4)) (log.take 4).flatten n ∧
        (readers (log.take 4).flatten).length = ([5] ++ accepted (es.take 4)).length := by
  have built : ofText "3,7,1105,1,0,0,0,0" [5] false =
      .ok (ofCells [3, 7, 1105, 1, 0, 0, 0, 0] [5] false) := rfl
  have calls : History (ofCells [3, 7, 1105, 1, 0, 0, 0, 0] [5] false) _ _ :=
    .cons (c := .run) (r := ⟨_, ⟨.ofList [3, 7, 1105, 1, 0, 0, 0, 5], 0, .waitingForInput, none, [],
      .empty, false, #[]⟩, _⟩) ⟨4, rfl⟩ <|
    .cons (c := .poke 1 6) (r := ⟨_, ⟨.ofList [3, 6, 1105, 1, 0, 0, 0, 5], 0, .waitingForInput, none,
      [], .empty, false, #[]⟩, _⟩) ⟨0, rfl⟩ <|
    .cons (c := .moveTo 2) (r := ⟨_, ⟨.ofList [3, 6, 1105, 1, 0, 0, 0, 5], 2, .waitingForInput, none,
      [], .empty, false, #[]⟩, _⟩) ⟨0, rfl⟩ <|
    .cons (c := .feed 9) (r := ⟨_, ⟨.ofList [3, 6, 1105, 1, 0, 0, 9, 5], 0, .waitingForInput, none, [],
      .empty, false, #[]⟩, _⟩) ⟨5, rfl⟩ <| .nil _
  obtain ⟨log, made, -, -, always⟩ := inputs_in_order built calls
  obtain ⟨accounts, waiting⟩ := always 4 _ calls
  exact ⟨_, _, _, log, built, calls, rfl, rfl, rfl, rfl, made, accounts, waiting rfl⟩

end DecimalMachine
