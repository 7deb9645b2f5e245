import DecimalMachine.Machine.Call
import DecimalMachine.Proofs.Machine.Supply

/-!
# Histories

A history is a list of calls that were all answered, each on the machine that the one before it
left. Allowances do not show in it: a call is answered if some allowance is large enough.
-/

namespace DecimalMachine

namespace Call

/-- Whether a call drives the machine: runs it, steps it or feeds it. -/
def drives : Call → Bool
  | .run | .step | .feed _ => true
  | .peek _ | .poke _ _ | .moveTo _ => false

/-- Whether a call changes memory or program counter from outside. -/
def tampers : Call → Bool
  | .poke _ _ | .moveTo _ => true
  | .run | .step | .feed _ | .peek _ => false

/-- The input that a call hands over. -/
def handed : Call → List Int
  | .feed v => [v]
  | _ => []

/-- A call to run hands nothing over. -/
@[simp] theorem handed_run : handed .run = [] := rfl

/-- A call to step hands nothing over. -/
@[simp] theorem handed_step : handed .step = [] := rfl

end Call

/-- The machine answers a call with a response. -/
def Machine.Answers (m : Machine) (c : Call) (r : Response Reply) : Prop :=
  ∃ allowance, m.call allowance c = some r

/-- A call that was answered, and the machine it was made on. -/
structure Exchange where
  before : Machine
  call : Call
  response : Response Reply

/-- The exchanges lead from the first machine to the last, each from where the one before it ended.
-/
inductive History : Machine → List Exchange → Machine → Prop
  | nil (m : Machine) : History m [] m
  | cons {m n : Machine} {c : Call} {r : Response Reply} {es : List Exchange}
      (answers : m.Answers c r) (rest : History r.machine es n) : History m (⟨m, c, r⟩ :: es) n

/-- The inputs handed over while the machine was live. -/
def accepted (es : List Exchange) : List Int :=
  es.flatMap fun e ↦ if e.before.Live then e.call.handed else []

/-- The inputs of a history are those of its first call and then those of the others. -/
theorem accepted_cons (e : Exchange) (es : List Exchange) :
    accepted (e :: es) = (if e.before.Live then e.call.handed else []) ++ accepted es := rfl

namespace Machine

/-! ### Answers to single calls -/

/-- Only the run of a machine answers a call to run. -/
theorem answers_run_iff {m : Machine} {r : Response Reply} :
    m.Answers .run r ↔ ∃ allowance q, m.run allowance = some q ∧ r = q.map .state := by
  simp only [Answers, call, Option.map_eq_some_iff, eq_comm (a := r)]

/-- Only a step answers a call to step. -/
theorem answers_step_iff {m : Machine} {r : Response Reply} :
    m.Answers .step r ↔ r = m.step.map .state := by
  simp only [Answers, call, Option.some.injEq, exists_const, eq_comm]

/-- Only feeding answers a call to feed. -/
theorem answers_feed_iff {m : Machine} {v : Int} {r : Response Reply} :
    m.Answers (.feed v) r ↔ ∃ allowance q, m.feed allowance v = some q ∧ r = q.map .state := by
  simp only [Answers, call, Option.map_eq_some_iff, eq_comm (a := r)]

/-- Looking at a cell leaves the machine as it is. -/
theorem answers_peek_iff {m : Machine} {a : Int} {r : Response Reply} :
    m.Answers (.peek a) r ↔ r = m.unchanged ((m.peek a).map .cell) := by
  simp only [Answers, call, Option.some.injEq, exists_const, eq_comm]

/-- Patching overwrites a cell, or fails and leaves the machine as it is. -/
theorem answers_poke_iff {m : Machine} {a v : Int} {r : Response Reply} :
    m.Answers (.poke a v) r ↔
      r = if m.memory.contains a then
        ({ m with memory := m.memory.set a v } : Machine).unchanged (.ok .done)
      else m.unchanged (.error (m.memory.outside a)) := by
  cases inside : m.memory.contains a with
  | true =>
    simp only [Answers, call, poke, Memory.write, inside, if_true, Except.map, Option.some.injEq,
      exists_const, eq_comm]
  | false =>
    simp only [Answers, call, poke, Memory.write, inside, Bool.false_eq_true, if_false, Except.map,
      Option.some.injEq, exists_const, eq_comm]

/-- Moving the program counter does nothing else, and never fails. -/
theorem answers_moveTo_iff {m : Machine} {pc : Int} {r : Response Reply} :
    m.Answers (.moveTo pc) r ↔ r = ({ m with pc := pc } : Machine).unchanged (.ok .done) := by
  simp only [Answers, call, Option.some.injEq, exists_const, eq_comm]

/-- A live machine that does not wait only takes the input into its queue. -/
theorem feed_of_not_waiting {m : Machine} (k : Nat) (v : Int) (live : m.Live)
    (h : m.state ≠ .waitingForInput) :
    m.feed k v = some ((m.supply [v]).unchanged (.ok m.state)) := by
  simp only [feed, live.1, if_neg live.2, if_neg h, supply]

/-- A machine that waits goes on with the input. -/
theorem feed_of_waiting {m : Machine} (k : Nat) (v : Int) (hf : m.fault = none)
    (h : m.state = .waitingForInput) : m.feed k v = (m.supply [v]).run k := by
  simp only [feed, hf, h, reduceCtorEq, if_false, if_true, supply]

/-- Replies that tell of the same state are made of the same answer. -/
theorem map_state_inj {x y : Except Fault State} : x.map Reply.state = y.map Reply.state ↔ x = y := by
  cases x <;> cases y <;> simp [Except.map]

/-- What a machine that is not live answers to a call that would drive it. -/
def refusal (m : Machine) : Call → Except Fault Reply
  | .feed v =>
    match m.fault with
    | some f => .error f
    | none => .error (.fedAfterHalt v)
  | _ => m.standing.map .state

/-- A machine that is not live refuses to be driven, and stays as it is. -/
theorem call_of_not_live {m : Machine} {c : Call} (k : Nat) (dead : ¬m.Live)
    (h : c.drives = true) : m.call k c = some (m.unchanged (m.refusal c)) := by
  rcases standing_of_not_live dead with ⟨hf, ht, hs⟩ | ⟨f, hf, hs⟩
  · cases c with
    | run => simp [call, run, hf, ht, refusal, hs, Response.map, unchanged]
    | step => simp [call, step, hf, ht, refusal, hs, Response.map, unchanged]
    | feed v => simp [call, feed, hf, ht, refusal, Response.map, unchanged, Except.map]
    | _ => cases h
  · cases c with
    | run => simp [call, run, hf, refusal, hs, Response.map, unchanged]
    | step => simp [call, step, hf, refusal, hs, Response.map, unchanged]
    | feed v => simp [call, feed, hf, refusal, Response.map, unchanged, Except.map]
    | _ => cases h

/-- A machine that is not live is left as it is by every call that would drive it. -/
theorem answers_of_not_live {m : Machine} {c : Call} {r : Response Reply} (dead : ¬m.Live)
    (h : c.drives = true) : m.Answers c r ↔ r = m.unchanged (m.refusal c) := by
  simp only [Answers, call_of_not_live _ dead h, Option.some.injEq, exists_const, eq_comm]

/-! ### What a call can do -/

/-- What a machine becomes by a call. -/
inductive Becomes (m : Machine) : Call → Machine → Prop
  /-- Nothing is done, and no input is taken. -/
  | stay {c : Call} (refused : m.Live → c.handed = []) : Becomes m c m
  /-- Steps are made: completed ones, and one more that ends the call. -/
  | drive {c : Call} {n : Machine} {events : Array Event} (live : m.Live)
      (driven : c.drives = true) (passes : (m.supply c.handed).Passes events n) :
      Becomes m c n.step.machine
  /-- An input is taken into the queue. -/
  | queue {v : Int} (live : m.Live) (busy : m.state ≠ .waitingForInput) :
      Becomes m (.feed v) (m.supply [v])
  /-- A cell is overwritten. -/
  | patch {a v : Int} (inside : m.memory.contains a = true) :
      Becomes m (.poke a v) { m with memory := m.memory.set a v }
  /-- The program counter is moved. -/
  | move {pc : Int} : Becomes m (.moveTo pc) { m with pc := pc }

private theorem becomes_of_run {m : Machine} {c : Call} {allowance : Nat} {q : Response State}
    (live : m.Live) (driven : c.drives = true)
    (ran : (m.supply c.handed).run allowance = some q) : m.Becomes c q.machine := by
  obtain ⟨events, n, passes, -, rfl⟩ := run_iff.mp ⟨allowance, ran⟩
  exact .drive live driven passes

private theorem becomes_of_not_live {m : Machine} {c : Call} {r : Response Reply} (dead : ¬m.Live)
    (driven : c.drives = true) (answers : m.Answers c r) : m.Becomes c r.machine := by
  rw [(answers_of_not_live dead driven).mp answers]
  exact .stay fun live ↦ absurd live dead

/-- That is all that a call can do. -/
theorem becomes_of_answers {m : Machine} {c : Call} {r : Response Reply} (answers : m.Answers c r) :
    m.Becomes c r.machine := by
  cases c with
  | run =>
    by_cases live : m.Live
    · obtain ⟨allowance, q, ran, rfl⟩ := answers_run_iff.mp answers
      apply becomes_of_run live rfl
      rw [Call.handed_run, supply_nil]
      exact ran
    · exact becomes_of_not_live live rfl answers
  | step =>
    by_cases live : m.Live
    · rw [answers_step_iff.mp answers]
      have passes : (m.supply (Call.handed .step)).Passes #[] m := by
        rw [Call.handed_step, supply_nil]
        exact .refl m
      exact .drive live rfl passes
    · exact becomes_of_not_live live rfl answers
  | feed v =>
    by_cases live : m.Live
    · obtain ⟨allowance, q, fed, rfl⟩ := answers_feed_iff.mp answers
      by_cases waiting : m.state = .waitingForInput
      · rw [feed_of_waiting allowance v live.1 waiting] at fed
        exact becomes_of_run live rfl fed
      · rw [feed_of_not_waiting allowance v live waiting] at fed
        cases fed
        exact .queue live waiting
    · exact becomes_of_not_live live rfl answers
  | peek a =>
    rw [answers_peek_iff.mp answers]
    exact .stay fun _ ↦ rfl
  | poke a v =>
    rw [answers_poke_iff.mp answers]
    split
    · next inside => exact .patch inside
    · exact .stay fun _ ↦ rfl
  | moveTo pc =>
    rw [answers_moveTo_iff.mp answers]
    exact .move

end Machine
end DecimalMachine
