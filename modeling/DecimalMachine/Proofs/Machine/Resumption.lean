import DecimalMachine.Proofs.Machine.History

/-!
# Suspending and resuming

A machine may be run, stepped and fed in any order: what it ends with is what a new machine ends
with that has all the accepted inputs from the start and is run once. So it does not matter when an
input arrives, only in which order.
-/

namespace DecimalMachine

namespace Machine

/-- A call comes before the inputs that are supplied after it: the end is the same if they are
supplied before, behind the input that the call hands over. -/
theorem ends_supply_call {m n : Machine} {c : Call} {r : Response Reply}
    {answer : Except Fault State} {later : List Int} (answers : m.Answers c r)
    (untouched : c.tampers = false) (h : (r.machine.supply later).Ends answer n) :
    (m.supply ((if m.Live then c.handed else []) ++ later)).Ends answer n := by
  cases c with
  | run =>
    obtain ⟨allowance, q, ran, rfl⟩ := answers_run_iff.mp answers
    simpa [Call.handed] using ends_supply_run ran h
  | step =>
    rw [answers_step_iff.mp answers] at h
    simpa [Call.handed] using ends_supply_step h
  | feed v =>
    by_cases live : m.Live
    · obtain ⟨allowance, q, fed, rfl⟩ := answers_feed_iff.mp answers
      rw [if_pos live, Call.handed, ← supply_supply]
      by_cases waiting : m.state = .waitingForInput
      · rw [feed_of_waiting allowance v live.1 waiting] at fed
        exact ends_supply_run fed h
      · rw [feed_of_not_waiting allowance v live waiting] at fed
        cases fed
        exact h
    · rw [(answers_of_not_live live rfl).mp answers] at h
      rw [if_neg live]
      exact h
  | peek a =>
    rw [answers_peek_iff.mp answers] at h
    simpa [Call.handed] using h
  | poke a v => cases untouched
  | moveTo pc => cases untouched

/-- A history comes before the inputs that are supplied after it. -/
theorem ends_supply_history {m n k : Machine} {es : List Exchange} {answer : Except Fault State}
    {later : List Int} (calls : History m es n)
    (untouched : ∀ e ∈ es, e.call.tampers = false) (h : (n.supply later).Ends answer k) :
    (m.supply (accepted es ++ later)).Ends answer k := by
  induction calls with
  | nil => exact h
  | cons answers _ ih =>
    have rest := ih (fun e he ↦ untouched e (List.mem_cons_of_mem _ he)) h
    rw [accepted_cons, List.append_assoc]
    exact ends_supply_call answers (untouched _ List.mem_cons_self) rest

/-- The end of a run can be asked for by a call. -/
theorem ends_iff_answers {m k : Machine} {answer : Except Fault State} :
    m.Ends answer k ↔
      ∃ r, m.Answers .run r ∧ r.result = answer.map .state ∧ r.machine.bare = k := by
  constructor
  · rintro ⟨allowance, q, ran, rfl, rfl⟩
    exact ⟨q.map .state, answers_run_iff.mpr ⟨allowance, q, ran, rfl⟩, rfl, rfl⟩
  · rintro ⟨r, answers, result, rfl⟩
    obtain ⟨allowance, q, ran, rfl⟩ := answers_run_iff.mp answers
    exact ⟨allowance, q, ran, map_state_inj.mp result, rfl⟩

end Machine

/-- Calls that neither patch cells nor move the program counter can be made in any order: if the
machine they lead to comes to an end when it is run, then a new machine with all the accepted inputs
comes to the same end in a single run. Answer, memory, program counter, state, fault, inputs left
and outputs are the same; only the trace may differ. -/
theorem single_run_of_history {program : String} {inputs : List Int} {traced traced' : Bool}
    {m n : Machine} {es : List Exchange} {r : Response Reply}
    (parsed : Machine.ofText program inputs traced = .ok m) (calls : History m es n)
    (untouched : ∀ e ∈ es, e.call.tampers = false) (stops : n.Answers .run r) :
    ∃ whole q, Machine.ofText program (inputs ++ accepted es) traced' = .ok whole ∧
      whole.Answers .run q ∧ q.result = r.result ∧ q.machine.bare = r.machine.bare := by
  obtain ⟨allowance, q, ran, rfl⟩ := Machine.answers_run_iff.mp stops
  have ends : (n.supply []).Ends q.result q.machine.bare := by
    rw [Machine.supply_nil]
    exact ⟨allowance, q, ran, rfl, rfl⟩
  have whole := Machine.ends_supply_history calls untouched ends
  rw [List.append_nil] at whole
  unfold Machine.ofText at parsed ⊢
  cases hp : Program.parse program with
  | error f =>
    rw [hp] at parsed
    cases parsed
  | ok cells =>
    rw [hp] at parsed
    have hm : m = Machine.ofCells cells inputs traced := (Except.ok.inj parsed).symm
    have same : (m.supply (accepted es)).bare =
        (Machine.ofCells cells (inputs ++ accepted es) traced').bare := by
      rw [hm]
      rfl
    obtain ⟨r, answers, result, left⟩ := Machine.ends_iff_answers.mp (Machine.ends_congr same whole)
    exact ⟨_, r, rfl, answers, result, left⟩

/-- An adder that is stepped, run and fed, and fed once more after it has halted. -/
theorem single_run_of_history_adder :
    ∃ m n es r,
      Machine.ofText "3,11,3,12,1,11,12,13,4,13,99,0,0,0" [5] false = .ok m ∧ History m es n ∧
        (∀ e ∈ es, e.call.tampers = false) ∧ n.Answers .run r ∧
        es.map (·.call) = [.step, .run, .feed 7, .feed 1] ∧ accepted es = [7] ∧
        r.machine.outputs.toList = [12] ∧
        ∃ whole q,
          Machine.ofText "3,11,3,12,1,11,12,13,4,13,99,0,0,0" ([5] ++ accepted es) true =
              .ok whole ∧
            whole.Answers .run q ∧ q.result = r.result ∧ q.machine.bare = r.machine.bare := by
  have parsed : Machine.ofText "3,11,3,12,1,11,12,13,4,13,99,0,0,0" [5] false =
      .ok (Machine.ofCells [3, 11, 3, 12, 1, 11, 12, 13, 4, 13, 99, 0, 0, 0] [5] false) := rfl
  have calls : History
      (Machine.ofCells [3, 11, 3, 12, 1, 11, 12, 13, 4, 13, 99, 0, 0, 0] [5] false) _ _ :=
    .cons (c := .step) ⟨0, rfl⟩ (.cons (c := .run) ⟨9, rfl⟩ (.cons (c := .feed 7) ⟨9, rfl⟩
      (.cons (c := .feed 1) ⟨0, rfl⟩ (.nil _))))
  refine ⟨_, _, _, _, parsed, calls, ?_, ⟨0, rfl⟩, rfl, rfl, rfl,
    single_run_of_history parsed calls ?_ ⟨0, rfl⟩⟩
  · simp [Call.tampers]
  · simp [Call.tampers]

end DecimalMachine
