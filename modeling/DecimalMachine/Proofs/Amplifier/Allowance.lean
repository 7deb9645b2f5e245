import DecimalMachine.Proofs.Amplifier.Rounds

/-!
# Chains without allowances

A chain that comes to an end within an allowance comes to the same end within every larger one. So
what a chain gives can be told without the allowance, and there is at most one answer. The other way
round, turns that are taken by machines which are settled make up a run that stops.
-/

namespace DecimalMachine

namespace Machine

private theorem feed_mono {k k' : Nat} {m : Machine} {v : Int} {r : Response State}
    (h : m.feed k v = some r) (enough : k ≤ k') : m.feed k' v = some r := by
  cases broken : m.fault with
  | some f =>
    simp only [feed, broken] at h ⊢
    exact h
  | none =>
    by_cases waiting : m.state = .waitingForInput
    · rw [feed_of_waiting _ v broken waiting] at h ⊢
      exact run_mono h enough
    · simp only [feed, broken, if_neg waiting] at h ⊢
      exact h

end Machine

namespace Chain

/-! ### Larger allowances -/

private theorem settle_mono {k k' : Nat} {turns : List Nat} {c : Chain} {seen : Array Event}
    {r : Response Unit} (h : settle k turns c seen = some r) (enough : k ≤ k') :
    settle k' turns c seen = some r := by
  induction turns generalizing c seen with
  | nil => exact h
  | cons t ts ih =>
    simp only [settle] at h ⊢
    cases ran : (c.machine t).run k with
    | none => simp only [ran, reduceCtorEq] at h
    | some q =>
      simp only [ran] at h
      simp only [Machine.run_mono ran enough]
      cases result : q.result with
      | error f =>
        simp only [result] at h
        exact h
      | ok s =>
        simp only [result] at h
        exact ih h

private theorem turn_mono {k k' i : Nat} {c : Chain} {s : Int} {r : Response Int}
    (h : c.turn k i s = some r) (enough : k ≤ k') : c.turn k' i s = some r := by
  unfold turn at h ⊢
  cases fed : (c.machine i).feed k s with
  | none => simp only [fed, reduceCtorEq] at h
  | some q =>
    simp only [fed] at h
    simp only [Machine.feed_mono fed enough]
    exact h

/-- Turns that come to an end also do under larger allowances, for each of them and for all. -/
theorem rounds_mono {k k' n n' i : Nat} {c : Chain} {s : Int} {seen : Array Event}
    {r : Response Int} (h : rounds k n i c s seen = some r) (enough : k ≤ k') (more : n ≤ n') :
    rounds k' n' i c s seen = some r := by
  induction n generalizing n' i c s seen with
  | zero => cases h
  | succ n ih =>
    obtain ⟨n', rfl⟩ := Nat.exists_eq_succ_of_ne_zero (by omega : n' ≠ 0)
    simp only [rounds] at h ⊢
    split
    · next done =>
      rw [if_pos done] at h
      exact h
    · next going =>
      rw [if_neg going] at h
      cases taken : c.turn k i s with
      | none => simp only [taken, reduceCtorEq] at h
      | some q =>
        simp only [taken] at h
        simp only [turn_mono taken enough]
        cases result : q.result with
        | error e =>
          simp only [result] at h
          exact h
        | ok answer =>
          simp only [result] at h
          exact ih h (by omega)

/-- A run of a chain that stops also stops under a larger allowance. -/
theorem run_mono {k k' : Nat} {c : Chain} {signal : Int} {r : Response Int}
    (h : c.run k signal = some r) (enough : k ≤ k') : c.run k' signal = some r := by
  unfold run at h ⊢
  cases settled : settle k (List.range c.size) c #[] with
  | none => simp only [settled, reduceCtorEq] at h
  | some q =>
    simp only [settled] at h
    simp only [settle_mono settled enough]
    cases result : q.result with
    | error e =>
      simp only [result] at h
      exact h
    | ok _ =>
      simp only [result] at h
      exact rounds_mono h enough enough

/-! ### Turns make a run -/

private theorem turn_of_takes {c : Chain} {i : Nat} {t : Turn} {m : Machine}
    (takes : (c.machine i).Takes t m) :
    ∃ needed, ∀ allowance, needed ≤ allowance →
      ∃ r, c.turn allowance i t.fed = some r ∧ r.result = .ok t.answer ∧
        r.chain = c.advance i m t.answer := by
  obtain ⟨needed, q, state, fed, ok, rfl, pushed⟩ := takes
  refine ⟨needed, fun allowance enough ↦ ?_⟩
  have fed' := Machine.feed_mono fed enough
  have produced : q.machine.outputs.size - (c.machine i).outputs.size = 1 := by
    rw [← Outputs.length_toList, ← Outputs.length_toList, pushed, Outputs.toList_push,
      List.length_append, Nat.add_sub_cancel_left]
    rfl
  have latest : q.machine.outputs.last? = some t.answer := by
    rw [Outputs.last?_eq, pushed, Outputs.toList_push, List.getLast?_concat]
  unfold turn
  simp only [fed', ok, produced, latest]
  exact ⟨_, rfl, rfl, rfl⟩

private theorem rounds_of_flow {c d : Chain} {signal s : Int} {turns : List Turn}
    (flow : Flow c signal turns d s) :
    ∃ needed, ∀ allowance n seen, needed ≤ allowance →
      ∃ seen', rounds allowance (turns.length + n) 0 c signal seen =
        rounds allowance n turns.length d s seen' := by
  induction flow with
  | start => exact ⟨0, fun allowance n seen _ ↦ ⟨seen, by rw [List.length_nil, Nat.zero_add]⟩⟩
  | @turn turns d t m flow going takes ih =>
    obtain ⟨needed, earlier⟩ := ih
    obtain ⟨needed', taken⟩ := turn_of_takes takes
    refine ⟨max needed needed', fun allowance n seen enough ↦ ?_⟩
    obtain ⟨seen', before⟩ := earlier allowance (n + 1) seen (by omega)
    obtain ⟨r, last, ok, left⟩ := taken allowance (by omega)
    have count : (turns ++ [t]).length + n = turns.length + (n + 1) := by
      rw [List.length_append, List.length_singleton]
      omega
    refine ⟨seen' ++ r.events, ?_⟩
    rw [count, before, rounds, going, if_neg Bool.false_ne_true, List.length_append,
      List.length_singleton]
    simp only [last, ok, left]

/-- Machines that have settled and turns that have been taken until the chain has finished make up a
run. -/
theorem run_of_flow {c d : Chain} {allowance : Nat} {signal s : Int} {q : Response Unit}
    {turns : List Turn} (settled : settle allowance (List.range c.size) c #[] = some q)
    (ok : q.result = .ok ())
    (flow : Flow { q.chain with signal := some signal } signal turns d s)
    (done : d.finished turns.length = true) :
    ∃ allowance' seen, c.run allowance' signal = some (d.conclude seen) := by
  obtain ⟨needed, taken⟩ := rounds_of_flow flow
  have enough : needed ≤ max allowance (max needed (turns.length + 1)) := by omega
  obtain ⟨seen, turned⟩ :=
    taken (max allowance (max needed (turns.length + 1))) 1 q.events enough
  have last : rounds (max allowance (max needed (turns.length + 1))) 1 turns.length d s seen =
      some (d.conclude seen) := by
    rw [rounds, if_pos done]
  refine ⟨max allowance (max needed (turns.length + 1)), seen, ?_⟩
  unfold run
  simp only [settle_mono settled (Nat.le_max_left _ _), ok]
  exact rounds_mono (turned.trans last) (Nat.le_refl _) (by omega)

end Chain

/-! ### Answers of new chains -/

/-- A new chain gives a signal or fails, if its run stops. -/
def Amplifies (program : String) (phases : List Int) (feedback : Bool) (signal : Int)
    (answer : Except Chain.Failure Int) : Prop :=
  ∃ allowance events, amplify allowance program phases feedback signal = some (answer, events)

/-- A signal that is found within some allowance is the answer. -/
theorem amplifies_of_signal {program : String} {phases : List Int} {feedback : Bool}
    {signal v : Int} (allowance : Nat)
    (found : (amplify allowance program phases feedback signal).bind (·.1.toOption) = some v) :
    Amplifies program phases feedback signal (.ok v) := by
  obtain ⟨⟨answer | w, events⟩, given, told⟩ := Option.bind_eq_some_iff.mp found
  · cases told
  · cases told
    exact ⟨allowance, events, given⟩

/-- What a new chain gives is also given under a larger allowance. -/
theorem amplify_mono {k k' : Nat} {program : String} {phases : List Int} {feedback : Bool}
    {signal : Int} {answer : Except Chain.Failure Int × Array Chain.Event}
    (h : amplify k program phases feedback signal = some answer) (enough : k ≤ k') :
    amplify k' program phases feedback signal = some answer := by
  unfold amplify at h ⊢
  cases built : Chain.ofText program phases feedback with
  | error e =>
    simp only [built] at h
    exact h
  | ok c =>
    simp only [built] at h
    obtain ⟨r, ran, rfl⟩ := Option.map_eq_some_iff.mp h
    simp only [Chain.run_mono ran enough, Option.map_some]

/-- A new chain has at most one answer. -/
theorem Amplifies.unique {program : String} {phases : List Int} {feedback : Bool} {signal : Int}
    {answer answer' : Except Chain.Failure Int}
    (h : Amplifies program phases feedback signal answer)
    (h' : Amplifies program phases feedback signal answer') : answer = answer' := by
  obtain ⟨k, events, given⟩ := h
  obtain ⟨k', events', given'⟩ := h'
  have one := amplify_mono given (Nat.le_max_left k k')
  have other := amplify_mono given' (Nat.le_max_right k k')
  exact congrArg Prod.fst (Option.some.inj (one.symm.trans other))

end DecimalMachine
