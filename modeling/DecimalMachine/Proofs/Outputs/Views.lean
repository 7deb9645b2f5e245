import DecimalMachine.Proofs.Machine.Reporting
import DecimalMachine.Proofs.Outputs.Queries

/-!
# Views of outputs

Whoever holds on to the outputs of a machine sees what it puts out later. Every question is answered
from the values that were there when the view was taken and from all that have come since, in order,
whatever else was done to the machine and whatever was asked before; and at every time the answers are
consistent with each other.
-/

namespace DecimalMachine

namespace Outputs

/-- What happens while a view of outputs is held: another value is put out, or a question is asked. -/
inductive Incident where
  | push (v : Int)
  | ask (q : Query)

/-- The values that are put out by what happens. -/
def pushed : List Incident → List Int
  | [] => []
  | .push v :: is => v :: pushed is
  | .ask _ :: is => pushed is

/-- The answers of a view, each from the outputs at its time. -/
def answers (o : Outputs) : List Incident → List (Except QueryFault Answer)
  | [] => []
  | .push v :: is => (o.push v).answers is
  | .ask q :: is => o.ask q :: o.answers is

end Outputs

/-- The values that are told as put out. -/
def emitted (events : Array Event) : List Int :=
  events.toList.filterMap fun e ↦ match e with
    | .output _ v => some v
    | _ => none

/-- The values put out in a history. -/
def emittedIn (es : List Exchange) : List Int := es.flatMap fun e ↦ emitted e.response.events

namespace Outputs

private theorem ofList_toList (o : Outputs) : ofList o.toList = o := by
  apply ext_toList
  rw [toList_ofList]

/-- What happens first is answered first, and leaves what it has put out. -/
theorem answers_append (o : Outputs) (first later : List Incident) :
    o.answers (first ++ later) =
      o.answers first ++ (ofList (o.toList ++ pushed first)).answers later := by
  induction first generalizing o with
  | nil => rw [pushed, List.append_nil, ofList_toList, List.nil_append, answers, List.nil_append]
  | cons i first ih =>
    cases i with
    | push v =>
      rw [List.cons_append, answers, answers, pushed, ih, toList_push, List.append_assoc,
        List.singleton_append]
    | ask q => rw [List.cons_append, answers, answers, pushed, ih, List.cons_append]

end Outputs

/-! ### The outputs of a machine -/

private theorem emitted_append (events more : Array Event) :
    emitted (events ++ more) = emitted events ++ emitted more := by
  simp [emitted]

namespace Machine

variable {m n : Machine} {events : Array Event}

private theorem emitted_startEvents (m : Machine) : emitted m.startEvents = [] := by
  unfold startEvents
  split
  · rfl
  · rfl

/-- A step puts out what it tells. -/
theorem outputs_step (m : Machine) :
    m.step.machine.outputs.toList = m.outputs.toList ++ emitted m.step.events := by
  by_cases live : m.Live
  · obtain ⟨lines, -, told⟩ := events_step live
    have silent : (lines.map Event.traced).filterMap (fun e ↦ match e with
        | .output _ v => some v
        | _ => none) = ([] : List Int) := by
      rw [List.filterMap_map, List.filterMap_eq_nil_iff]
      intro line _
      rfl
    have nothing := emitted_startEvents m
    unfold emitted at nothing ⊢
    rw [told, List.filterMap_append, List.filterMap_append, silent, nothing, List.nil_append,
      List.nil_append]
    rcases outcome_cases live with ⟨f, outcome, -, -, -, kept⟩ | ⟨outcome, -, -, pushed⟩ |
      ⟨outcome | outcome, -, -, kept⟩
    · simp [outcome, kept]
    · simp [outcome, pushed]
    · simp [outcome, kept]
    · simp [outcome, kept]
  · rw [step_of_not_live live]
    exact (List.append_nil _).symm

private theorem outputs_passes (passes : m.Passes events n) :
    n.outputs.toList = m.outputs.toList ++ emitted events := by
  induction passes with
  | refl m => exact (List.append_nil _).symm
  | @head m n events _ _ ih => rw [ih, outputs_step, emitted_append, List.append_assoc]

/-- A run puts out what it tells. -/
theorem outputs_run {allowance : Nat} {q : Response State} (ran : m.run allowance = some q) :
    q.machine.outputs.toList = m.outputs.toList ++ emitted q.events := by
  obtain ⟨events, n, passes, -, rfl⟩ := passes_of_run ran
  have last : emitted n.lastWords = [] := by
    unfold lastWords
    split
    · split
      · rfl
      · rfl
    · rfl
  show n.step.machine.outputs.toList =
    m.outputs.toList ++ emitted (events ++ (n.step.events ++ n.lastWords))
  rw [outputs_step, outputs_passes passes, emitted_append, emitted_append, last, List.append_nil,
    List.append_assoc]

private theorem outputs_answers {c : Call} {r : Response Reply} (answers : m.Answers c r) :
    r.machine.outputs.toList = m.outputs.toList ++ emitted r.events := by
  have unchanged : m.outputs.toList = m.outputs.toList ++ emitted #[] := (List.append_nil _).symm
  cases c with
  | run =>
    obtain ⟨allowance, q, ran, rfl⟩ := answers_run_iff.mp answers
    exact outputs_run ran
  | step =>
    rw [answers_step_iff.mp answers]
    exact outputs_step m
  | feed v =>
    by_cases live : m.Live
    · obtain ⟨allowance, q, fed, rfl⟩ := answers_feed_iff.mp answers
      by_cases waiting : m.state = .waitingForInput
      · rw [feed_of_waiting allowance v live.1 waiting] at fed
        have told := outputs_run fed
        exact told
      · rw [feed_of_not_waiting allowance v live waiting] at fed
        cases fed
        exact unchanged
    · rw [(answers_of_not_live live rfl).mp answers]
      exact unchanged
  | peek a =>
    rw [answers_peek_iff.mp answers]
    exact unchanged
  | poke a v =>
    rw [answers_poke_iff.mp answers]
    split
    · exact unchanged
    · exact unchanged
  | moveTo pc =>
    rw [answers_moveTo_iff.mp answers]
    exact unchanged

/-- A history puts out what is told in it. -/
theorem outputs_history {es : List Exchange} (calls : History m es n) :
    n.outputs.toList = m.outputs.toList ++ emittedIn es := by
  induction calls with
  | nil => exact (List.append_nil _).symm
  | cons answers _ ih =>
    rw [ih, outputs_answers answers, List.append_assoc]
    rfl

end Machine

/-! ### Views -/

open Outputs

/-- A view of outputs answers every question from the values that were there when it was taken and all
that have come since, however values and questions follow each other. If it is a view of a machine,
these are the values told by the output instructions, whatever is done to the machine meanwhile. And all
answers from the same values are consistent. -/
theorem view_is_live :
    (∀ xs before q after,
      answers (ofList xs) (before ++ .ask q :: after) =
        answers (ofList xs) before ++ (ofList (xs ++ pushed before)).ask q ::
          answers (ofList (xs ++ pushed before)) after) ∧
      (∀ m es n, History m es n → ∀ q,
        n.outputs.ask q = (ofList (m.outputs.toList ++ emittedIn es)).ask q) ∧
        ∀ xs, Consistent xs (ofList xs).ask := by
  refine ⟨?_, ?_, ?_⟩
  · intro xs before q after
    rw [answers_append, toList_ofList, answers]
  · intro m es n calls q
    rw [← Machine.outputs_history calls, ofList_toList]
  · intro xs
    have consistent := (ofList xs).consistent_ask
    rw [toList_ofList] at consistent
    exact consistent

/-- A view that is taken before a machine runs sees the input that is fed and put out later. A list of
three is asked for the second of two equal values, and for it once more when another has come. -/
theorem view_is_live_echo :
    ∃ m n es, History m es n ∧ es.map (·.call) = [.run, .feed 42] ∧
      m.outputs.toList = [] ∧ emittedIn es = [42] ∧
      n.outputs.ask .last = (ofList ([] ++ [42])).ask .last ∧
      answers (ofList [7, 8, 7]) [.ask (.index 7 (-2) none), .push 8, .ask (.index 7 (-2) none)] =
        [.ok (.number 2), .ok (.number 2)] := by
  have calls : History (Machine.ofCells [3, 0, 4, 0, 99] [] false) _ _ :=
    .cons (c := .run) ⟨9, rfl⟩ (.cons (c := .feed 42) ⟨9, rfl⟩ (.nil _))
  obtain ⟨asked, seen, -⟩ := view_is_live
  refine ⟨_, _, _, calls, rfl, rfl, rfl, ?_, ?_⟩
  · exact seen _ _ _ calls .last
  · exact asked [7, 8, 7] [.ask (.index 7 (-2) none), .push 8] (.index 7 (-2) none) []

end DecimalMachine
