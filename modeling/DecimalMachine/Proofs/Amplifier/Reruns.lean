import DecimalMachine.Proofs.Amplifier.Ending

/-!
# Chains that are run again

A chain may be run on one signal after the other, also after a run that failed. Its machines are not
made anew, and neither are its count of feeds nor the outputs of its machines. Between two runs all
machines are at rest, unless the chain has come to harm before its last machine has halted; so a
chain whose last machine has halted feeds nothing any more. What it answers then depends on earlier
runs alone: if anything was fed in one of them, the latest output of the last machine is given once
more.
-/

namespace DecimalMachine

namespace Machine

private theorem Idle.runsTo {m : Machine} (idle : m.Idle) : ∃ n, m.RunsTo n ∧ n.bare = m.bare := by
  obtain ⟨allowance, r, ran, ok, left⟩ := idle.ends
  exact ⟨r.machine, ⟨allowance, r, m.state, ran, ok, rfl⟩, left⟩

private theorem RunsTo.unbroken {m n : Machine} (runs : m.RunsTo n) : m.fault = none := by
  obtain ⟨allowance, r, s, ran, ok, -⟩ := runs
  cases broken : m.fault with
  | none => rfl
  | some f =>
    simp only [run, broken, Option.some.injEq] at ran
    subst ran
    cases ok

private theorem alive_of_failed_run {m : Machine} {allowance : Nat} {q : Response State} {f : Fault}
    (alive : m.state ≠ .terminated) (ran : m.run allowance = some q)
    (failed : q.result = .error f) : q.machine.state ≠ .terminated := by
  cases broken : m.fault with
  | none =>
    have started : (m.supply (Call.handed .run)).run allowance = some q := by
      rw [Call.handed_run, supply_nil, ran]
    rw [(breaks_of_run ⟨broken, alive⟩ (by decide) started failed).state]
    decide
  | some g =>
    simp only [run, broken, Option.some.injEq] at ran
    subst ran
    exact alive

private theorem Idle.feed_error {m : Machine} {allowance : Nat} {v : Int} {r : Response State}
    {f : Fault}
    (idle : m.Idle) (fed : m.feed allowance v = some r) (failed : r.result = .error f) :
    r.machine = m ∨ r.machine.fault = some f ∧ r.machine.state ≠ .terminated := by
  by_cases live : m.Live
  · rcases fault_of_feed fed failed with kept | ⟨-, -, same⟩
    · rw [feed_of_waiting allowance v live.1 (idle.waiting live)] at fed
      exact .inr ⟨kept, alive_of_failed_run (m := m.supply [v]) live.2 fed failed⟩
    · exact .inl same
  · have answers : m.Answers (.feed v) (r.map .state) :=
      answers_feed_iff.mpr ⟨allowance, r, fed, rfl⟩
    exact .inl (congrArg Response.machine ((answers_of_not_live live rfl).mp answers))

end Machine

namespace Chain

/-! ### Runs one after the other -/

/-- A run of a chain, and the chain it was made on. -/
structure Rerun where
  before : Chain
  signal : Int
  response : Response Int

/-- The runs lead from the first chain to the last, each from where the one before it ended, however
it ended. -/
inductive Runs : Chain → List Rerun → Chain → Prop
  | nil (c : Chain) : Runs c [] c
  | cons {c d : Chain} {allowance : Nat} {signal : Int} {r : Response Int} {es : List Rerun}
      (ran : c.run allowance signal = some r) (rest : Runs r.chain es d) :
      Runs c (⟨c, signal, r⟩ :: es) d

namespace Rerun

/-- The value is what the last machine has answered last in the turns of this run, and there were
such turns. -/
def Fresh (e : Rerun) (v : Int) : Prop :=
  ∃ turns d s, e.before.Reaches e.signal turns d s ∧ turns ≠ [] ∧
    e.response.chain = { d with signal := some v } ∧
    e.response.chain.feeds = e.before.feeds + turns.length ∧
    (answersOf e.before.size turns (e.before.size - 1)).getLast? = some v

/-- The last machine has halted before this run, or halts while the machines settle, so that nothing
is fed. -/
def Silent (e : Rerun) : Prop :=
  e.before.last.state = .terminated ∨
    ∃ d s, e.before.Reaches e.signal [] d s ∧ d.last.state = .terminated

/-- A run that answers for itself: the signal it gives is one of its own, and it fails for want of a
signal if it has none. -/
structure Honest (e : Rerun) : Prop where
  fresh : ∀ v, e.response.result = .ok v → e.Fresh v
  silent : e.Silent → e.response.result = .error (.breach (.noSignal (e.before.size - 1)))

end Rerun

/-- What holds of a chain between two runs. Either all its machines are at rest, or its last machine
has not halted and nothing was fed yet or some machine is broken for good. -/
def Steady (c : Chain) : Prop :=
  (∀ j, (c.machine j).Idle) ∨
    c.last.state ≠ .terminated ∧ (c.feeds = 0 ∨ ∃ j, (c.machine j).fault ≠ none)

/-! ### Settling again -/

private theorem settle_append (allowance : Nat) (ts us : List Nat) (c : Chain)
    (seen : Array Event) :
    settle allowance (ts ++ us) c seen =
      (settle allowance ts c seen).bind fun r ↦
        match r.result with
        | .error _ => some r
        | .ok _ => settle allowance us r.chain r.events := by
  induction ts generalizing c seen with
  | nil => rfl
  | cons t ts ih =>
    simp only [List.cons_append, settle]
    cases (c.machine t).run allowance with
    | none => rfl
    | some r =>
      cases hr : r.result with
      | error f => simp only [hr, Option.bind_some]
      | ok s =>
        simp only [hr]
        exact ih ..

private theorem machine_of_settle {allowance j : Nat} {turns : List Nat} {c : Chain}
    {seen : Array Event}
    {r : Response Unit} (inside : ∀ t ∈ turns, t < c.size) (hj : j < c.size) (other : j ∉ turns)
    (h : settle allowance turns c seen = some r) : r.chain.machine j = c.machine j := by
  induction turns generalizing c seen with
  | nil =>
    cases h
    rfl
  | cons t ts ih =>
    have first : t < c.size := inside t List.mem_cons_self
    have differs : t ≠ j := fun same ↦ other (same ▸ List.mem_cons_self)
    obtain ⟨q, -, ⟨f, -, -, left⟩ | ⟨s, events, -, later⟩⟩ := settle_cons_cases h
    · rw [left, machine_replace_other q.machine first hj differs]
    · have size : (c.replace t q.machine).size = c.size := size_replace ..
      rw [ih (fun u hu ↦ size ▸ inside u (List.mem_cons_of_mem _ hu)) (size ▸ hj)
        (fun mem ↦ other (List.mem_cons_of_mem _ mem)) later,
        machine_replace_other q.machine first hj differs]

private theorem last_of_settle_error {allowance : Nat} {c : Chain} {seen : Array Event}
    {r : Response Unit}
    {e : Failure} (h : settle allowance (List.range c.size) c seen = some r)
    (failed : r.result = .error e) :
    r.chain.last = c.last ∨
      ∃ q f, c.last.run allowance = some q ∧ q.result = .error f ∧ r.chain.last = q.machine := by
  have positive : 0 < c.size := c.nonempty
  obtain ⟨⟨size, -⟩, -⟩ := settle_cases (fun t ht ↦ List.mem_range.mp ht) List.nodup_range h
  have inside : ∀ t ∈ List.range (c.size - 1), t < c.size := fun t ht ↦ by
    have := List.mem_range.mp ht
    omega
  have others : List.range c.size = List.range (c.size - 1) ++ [c.size - 1] := by
    rw [← List.range_succ, Nat.succ_eq_add_one, Nat.sub_add_cancel positive]
  have apart : c.size - 1 ∉ List.range (c.size - 1) := by simp
  rw [others, settle_append] at h
  obtain ⟨p, settled, rest⟩ := Option.bind_eq_some_iff.mp h
  obtain ⟨⟨size', -⟩, -⟩ := settle_cases inside List.nodup_range settled
  have untouched : p.chain.machine (c.size - 1) = c.last :=
    machine_of_settle inside (by omega) apart settled
  cases result : p.result with
  | error g =>
    simp only [result, Option.some.injEq] at rest
    subst rest
    left
    rw [last, size', untouched]
  | ok _ =>
    simp only [result] at rest
    obtain ⟨q, ran, ⟨f, broken, -, left⟩ | ⟨s, events, -, done⟩⟩ := settle_cons_cases rest
    · right
      refine ⟨q, f, untouched ▸ ran, broken, ?_⟩
      rw [last, size, left, machine_replace_self]
    · cases done
      cases failed

private theorem last_of_unsettled {allowance : Nat} {c : Chain} {signal : Int} {r : Response Int}
    (ran : c.run allowance signal = some r) (unsettled : ¬∃ d, c.Settles signal d) :
    r.chain.last = c.last ∨
      ∃ q f, c.last.run allowance = some q ∧ q.result = .error f ∧ r.chain.last = q.machine := by
  unfold run at ran
  cases hs : settle allowance (List.range c.size) c #[] with
  | none => simp only [hs, reduceCtorEq] at ran
  | some q =>
    cases result : q.result with
    | ok _ => exact absurd ⟨_, settles_of_settle hs result signal⟩ unsettled
    | error e =>
      simp only [hs, result, Option.some.injEq] at ran
      subst ran
      exact last_of_settle_error hs result

private theorem unsettled_of_error {c : Chain} {signal : Int} {j allowance : Nat}
    {q : DecimalMachine.Response State} {f : Fault} (inside : j < c.size)
    (ran : (c.machine j).run allowance = some q) (failed : q.result = .error f) :
    ¬∃ d, c.Settles signal d :=
  fun ⟨_, settles⟩ ↦ (settles.machines j inside).ne_error ran failed

private theorem machine_mod (c : Chain) (j : Nat) : c.machine (j % c.size) = c.machine j :=
  machine_congr (Nat.mod_mod j c.size)

private theorem Settles.bare_machine {c d : Chain} {signal : Int} (settles : c.Settles signal d)
    (idle : ∀ j, (c.machine j).Idle) (j : Nat) : (d.machine j).bare = (c.machine j).bare := by
  have inside : j % c.size < c.size := Nat.mod_lt j c.nonempty
  obtain ⟨n, runs, same⟩ := (idle (j % c.size)).runsTo
  rw [← d.machine_mod, ← c.machine_mod, settles.size,
    (settles.machines _ inside).unique runs, same]

private theorem Settles.last {c d : Chain} {signal : Int} (settles : c.Settles signal d)
    (idle : ∀ j, (c.machine j).Idle) :
    d.last.state = c.last.state ∧ d.last.outputs = c.last.outputs := by
  have same : d.last.bare = c.last.bare := by
    rw [Chain.last, Chain.last, settles.size]
    exact settles.bare_machine idle _
  have outputs := congrArg Machine.outputs same
  exact ⟨(Machine.bare_state same).1, outputs⟩

/-! ### Between two runs -/

section

variable {c d : Chain} {allowance : Nat} {signal : Int} {r : Response Int}

private theorem steady_ofCells {cells phases : List Int} {feedback : Bool} (h : phases ≠ []) :
    (ofCells cells phases feedback h).Steady := by
  refine .inr ⟨?_, .inl rfl⟩
  have inside : phases.length - 1 < phases.length :=
    Nat.sub_one_lt_of_lt (List.length_pos_iff.mpr h)
  rw [last, size_ofCells, machine_ofCells h (List.getElem?_eq_getElem inside)]
  show State.initialized ≠ .terminated
  decide

private theorem Steady.idle (steady : c.Steady) (settles : c.Settles signal d)
    (used : c.feeds ≠ 0 ∨ c.last.state = .terminated) (j : Nat) : (c.machine j).Idle := by
  rcases steady with idle | ⟨alive, unfed | ⟨i, broken⟩⟩
  · exact idle j
  · rcases used with fed | halted
    · exact absurd unfed fed
    · exact absurd halted alive
  · have runs := settles.machines (i % c.size) (Nat.mod_lt i c.nonempty)
    rw [machine_mod] at runs
    exact absurd runs.unbroken broken

private theorem Steady.alive_of_error (steady : c.Steady) {j : Nat}
    {q : DecimalMachine.Response State}
    {f : Fault} (ran : (c.machine j).run allowance = some q) (failed : q.result = .error f) :
    c.last.state ≠ .terminated := by
  rcases steady with idle | ⟨alive, -⟩
  · obtain ⟨n, runs, -⟩ := (idle j).runsTo
    exact absurd failed (runs.ne_error ran)
  · exact alive

private theorem machine_conclude (c : Chain) (seen : Array Event) (j : Nat) :
    (c.conclude seen).chain.machine j = c.machine j := by
  unfold conclude
  split <;> rfl

private theorem conclude_of_empty {c : Chain} (nothing : c.last.outputs.last? = none)
    (seen : Array Event) :
    (c.conclude seen).result = .error (.breach (.noSignal (c.size - 1))) := by
  unfold conclude
  rw [nothing]
  split
  · rfl
  · rfl
  · next found _ => cases found

private theorem idle_replace {i : Nat} {m : Machine} (idle : ∀ j, (d.machine j).Idle)
    (rests : m.Idle)
    (j : Nat) : ((d.replace i m).machine j).Idle := by
  by_cases same : i % d.size = j % d.size
  · have again : (d.replace i m).machine j = (d.replace i m).machine i :=
      machine_congr (by rw [size_replace, same])
    rw [again, machine_replace_self]
    exact rests
  · rw [machine_replace_of_ne m same]
    exact idle j

private theorem alive_replace {i : Nat} {m : Machine} (alive : d.last.state ≠ .terminated)
    (works : m.state ≠ .terminated) : (d.replace i m).last.state ≠ .terminated := by
  rw [last, size_replace]
  by_cases same : i % d.size = (d.size - 1) % d.size
  · have again : (d.replace i m).machine (d.size - 1) = (d.replace i m).machine i :=
      machine_congr (by rw [size_replace, same])
    rw [again, machine_replace_self]
    exact works
  · rw [machine_replace_of_ne m same]
    exact alive

private theorem steady_of_turn {i : Nat} {s : Int} {q : Response Int} {e : Failure}
    (idle : ∀ j, (d.machine j).Idle) (alive : d.last.state ≠ .terminated)
    (taken : d.turn allowance i s = some q) (failed : q.result = .error e) : q.chain.Steady := by
  obtain ⟨p, fed, ⟨f, broken, -, left⟩ | ⟨state, answer, -, -, told, -⟩ |
    ⟨state, new, ok, -, -, -, left⟩⟩ := turn_cases taken
  · rw [left]
    rcases (idle i).feed_error fed broken with same | ⟨kept, works⟩
    · rw [same, replace_machine]
      exact .inl idle
    · refine .inr ⟨alive_replace alive works, .inr ⟨i, ?_⟩⟩
      rw [machine_replace_self, kept]
      exact Option.some_ne_none f
  · cases failed.symm.trans told
  · rw [left]
    exact .inl (idle_replace idle ((idle i).feed fed ok).1)

/-- A run leaves a steady chain steady, however it ends. -/
theorem steady_of_run (steady : c.Steady) (ran : c.run allowance signal = some r) :
    r.chain.Steady := by
  rcases run_cases ran with ⟨size, -, j, inside, q, f, ran', failed, -, left⟩ |
    ⟨settled, turns, d, s, settles, flow, ends⟩
  · have alive := steady.alive_of_error ran' failed
    refine .inr ⟨?_, .inr ⟨j, ?_⟩⟩
    · rcases last_of_unsettled ran (unsettled_of_error inside ran' failed) with
        same | ⟨p, g, ran'', failed', same⟩
      · rw [same]
        exact alive
      · rw [same]
        exact Machine.alive_of_failed_run alive ran'' failed'
    · rw [left, Machine.fault_of_run ran' failed]
      exact Option.some_ne_none f
  · have idle (j : Nat) : (d.machine j).Idle := Reaches.idle ⟨settled, settles, flow⟩ j
    rcases ends with ⟨-, seen, rfl⟩ | ⟨going, q, e, taken, failed, -, left⟩
    · exact .inl fun j ↦ (machine_conclude d seen j).symm ▸ idle j
    · rw [left]
      exact steady_of_turn idle (finished_eq_false_iff.mp going).1 taken failed

end

/-! ### What a run answers -/

private theorem Settles.last_unique {c d d' : Chain} {signal : Int} (settles : c.Settles signal d)
    (settles' : c.Settles signal d') : d.last = d'.last := by
  have inside : c.size - 1 < c.size := Nat.sub_one_lt_of_lt c.nonempty
  rw [Chain.last, Chain.last, settles.size, settles'.size]
  exact (settles.machines _ inside).unique (settles'.machines _ inside)

namespace Rerun

variable {e : Rerun} {allowance : Nat} {settled d : Chain} {turns : List Turn} {s : Int}

/-- The run gives a signal that it has not come by itself: the latest output that the last machine
made in earlier runs. Nothing is fed and no machine moves. -/
structure Stale (e : Rerun) (v : Int) : Prop where
  halted : e.before.last.state = .terminated
  fed : e.before.feeds ≠ 0
  left : e.before.last.outputs.last? = some v
  told : e.response.result = .ok v
  feeds : e.response.chain.feeds = e.before.feeds
  still : ∀ j, (e.response.chain.machine j).bare = (e.before.machine j).bare

/-- The condition on which a run answers for itself: its chain could still feed something, or has
nothing left over from earlier runs. -/
def Clean (e : Rerun) : Prop :=
  e.before.last.state ≠ .terminated ∨ e.before.feeds = 0 ∨ e.before.last.outputs.last? = none

private theorem Stale.not_honest {v : Int} (stale : e.Stale v) : ¬e.Honest := by
  intro honest
  have failed := honest.silent (.inl stale.halted)
  cases stale.told.symm.trans failed

private theorem Stale.not_clean {v : Int} (stale : e.Stale v) : ¬e.Clean := by
  rintro (alive | unfed | empty)
  · exact alive stale.halted
  · exact stale.fed unfed
  · cases empty.symm.trans stale.left

private theorem fresh_of_turns {seen : Array Event} (settles : e.before.Settles e.signal settled)
    (flow : Flow settled e.signal turns d s) (some_turns : turns ≠ [])
    (done : d.finished turns.length = true) (ends : e.response = d.conclude seen) :
    e.response.result = .ok s ∧ e.Fresh s := by
  obtain ⟨rounds, some_rounds, whole, -⟩ := flow.whole some_turns done
  have counted : d.feeds = e.before.feeds + turns.length := by rw [flow.feeds, settles.feeds]
  have fed : d.feeds ≠ 0 := by
    have some_length := List.length_pos_iff.mpr some_turns
    omega
  have answered := (flow.returned whole some_rounds).2
  rw [settles.size] at answered
  obtain ⟨result, left⟩ := conclude_of_fed fed (flow.latest whole some_rounds) seen
  rw [← ends] at result left
  refine ⟨result, turns, d, s, ⟨settled, settles, flow⟩, some_turns, left, ?_, answered⟩
  rw [left]
  exact counted

private theorem honest_of_unsettled {f : Fault} (alive : e.before.last.state ≠ .terminated)
    (unsettled : ¬∃ d, e.before.Settles e.signal d)
    (told : e.response.result = .error (.machine f)) : e.Honest where
  fresh v ok := by cases told.symm.trans ok
  silent := by
    rintro (halted | ⟨d, s, ⟨settled, settles, -⟩, -⟩)
    · exact absurd halted alive
    · exact absurd ⟨settled, settles⟩ unsettled

private theorem honest_of_going (steady : e.before.Steady)
    (settles : e.before.Settles e.signal settled) (flow : Flow settled e.signal turns d s)
    (going : settled.last.state ≠ .terminated)
    (ends : d.finished turns.length = true ∧ (∃ seen, e.response = d.conclude seen) ∨
      ∃ failure, e.response.result = .error failure) : e.Honest ∧ e.Clean := by
  have alive : e.before.last.state ≠ .terminated := by
    intro halted
    exact going ((settles.last (steady.idle settles (.inr halted))).1.trans halted)
  refine ⟨⟨?_, ?_⟩, .inl alive⟩
  · intro v ok
    rcases ends with ⟨done, seen, ends⟩ | ⟨failure, failed⟩
    · have some_turns : turns ≠ [] := by
        rintro rfl
        cases flow.of_nil rfl
        exact going (finished_zero_iff.mp done)
      obtain ⟨result, fresh⟩ := fresh_of_turns settles flow some_turns done ends
      cases result.symm.trans ok
      exact fresh
    · cases failed.symm.trans ok
  · rintro (halted | ⟨d', s', ⟨settled', settles', flow'⟩, halted⟩)
    · exact absurd halted alive
    · rw [flow'.of_nil rfl, ← settles.last_unique settles'] at halted
      exact absurd halted going

private theorem honest_or_stale_of_halted {seen : Array Event} (steady : e.before.Steady)
    (settles : e.before.Settles e.signal settled) (halted : settled.last.state = .terminated)
    (ends : e.response = settled.conclude seen) : e.Honest ∧ e.Clean ∨ ∃ v, e.Stale v := by
  have honest (told : e.response.result = .error (.breach (.noSignal (settled.size - 1)))) :
      e.Honest := by
    refine ⟨fun v ok ↦ ?_, fun _ ↦ settles.size ▸ told⟩
    cases told.symm.trans ok
  by_cases unfed : e.before.feeds = 0
  · refine .inl ⟨honest ?_, .inr (.inl unfed)⟩
    rw [ends, conclude_of_unfed (settles.feeds.trans unfed)]
  · have idle := steady.idle settles (.inl unfed)
    obtain ⟨state, outputs⟩ := settles.last idle
    cases latest : e.before.last.outputs.last? with
    | none =>
      refine .inl ⟨honest ?_, .inr (.inr latest)⟩
      rw [ends, conclude_of_empty (outputs ▸ latest)]
    | some v =>
      have fed : settled.feeds ≠ 0 := settles.feeds ▸ unfed
      obtain ⟨result, left⟩ := conclude_of_fed fed (outputs ▸ latest) seen
      refine .inr ⟨v, state.symm.trans halted, unfed, latest, ends ▸ result, ?_, fun j ↦ ?_⟩
      · rw [ends, left]
        exact settles.feeds
      · rw [ends, machine_conclude]
        exact settles.bare_machine idle j

/-- A run of a steady chain answers for itself, or it gives a stale signal. -/
theorem honest_or_stale (steady : e.before.Steady)
    (ran : e.before.run allowance e.signal = some e.response) :
    e.Honest ∧ e.Clean ∨ ∃ v, e.Stale v := by
  rcases run_cases ran with ⟨-, -, j, inside, q, f, ran', failed, told, -⟩ |
    ⟨settled, turns, d, s, settles, flow, ends⟩
  · have alive := steady.alive_of_error ran' failed
    exact .inl ⟨honest_of_unsettled alive (unsettled_of_error inside ran' failed) told, .inl alive⟩
  · by_cases halted : settled.last.state = .terminated
    · have done := finished_zero_iff.mpr halted
      obtain ⟨rfl, rfl⟩ := flow.of_finished done
      rcases ends with ⟨-, seen, ends⟩ | ⟨going, -⟩
      · exact honest_or_stale_of_halted steady settles halted ends
      · cases done.symm.trans going
    · refine .inl (honest_of_going steady settles flow halted ?_)
      rcases ends with finished | ⟨-, q, failure, -, -, told, -⟩
      · exact .inl finished
      · exact .inr ⟨failure, told⟩

end Rerun

/-- Every run in a row of runs is made on a steady chain. -/
theorem Runs.steady {c d : Chain} {es : List Rerun} (runs : Runs c es d) (steady : c.Steady) :
    ∀ e ∈ es, e.before.Steady ∧
      ∃ allowance, e.before.run allowance e.signal = some e.response := by
  induction runs with
  | nil => exact fun e mem ↦ absurd mem List.not_mem_nil
  | cons ran _ ih =>
    intro e mem
    rcases List.mem_cons.mp mem with rfl | later
    · exact ⟨steady, _, ran⟩
    · exact ih (steady_of_run steady ran) e later

/-- A chain that a program text gives is steady. -/
theorem steady_ofText {program : String} {phases : List Int} {feedback : Bool} {c : Chain}
    (built : ofText program phases feedback = .ok c) : c.Steady := by
  unfold ofText at built
  split at built
  · cases built
  · next some_phases =>
    cases parsed : Program.parse program with
    | error f =>
      rw [parsed] at built
      cases built
    | ok cells =>
      rw [parsed] at built
      cases built
      exact steady_ofCells some_phases

/-- Of the runs of a chain, one after the other, those answer for themselves before which the last
machine has not halted, or nothing has been fed, or the last machine has put out nothing. All others
give the latest output of the last machine once more, although nothing is fed. -/
theorem run_honest_iff {program : String} {phases : List Int} {feedback : Bool} {c d : Chain}
    {es : List Rerun} (built : ofText program phases feedback = .ok c) (runs : Runs c es d)
    {e : Rerun} (mem : e ∈ es) :
    (e.Honest ↔ e.Clean) ∧ (¬e.Honest → ∃ v, e.Stale v) := by
  obtain ⟨steady, allowance, ran⟩ := runs.steady (steady_ofText built) e mem
  rcases Rerun.honest_or_stale steady ran with ⟨honest, clean⟩ | ⟨v, stale⟩
  · exact ⟨⟨fun _ ↦ clean, fun _ ↦ honest⟩, fun other ↦ absurd honest other⟩
  · exact ⟨⟨fun honest ↦ absurd honest stale.not_honest, fun clean ↦ absurd clean stale.not_clean⟩,
      fun _ ↦ ⟨v, stale⟩⟩

private theorem ok_of_toOption {r : Except Failure Int} {v : Int} (h : r.toOption = some v) :
    r = .ok v := by
  cases r with
  | error e => cases h
  | ok w => exact congrArg Except.ok (Option.some.inj h)

/-- One machine that passes its signals on for ever, without feedback, answers for itself when it is
run a second time: it is fed the new signal. -/
theorem run_honest_iff_echo :
    ∃ c r q, ofText "3,9,3,9,4,9,1105,1,2,0" [5] false = .ok c ∧
      Runs c [⟨c, 3, r⟩, ⟨r.chain, 4, q⟩] q.chain ∧ q.result = .ok 4 ∧
      (⟨r.chain, 4, q⟩ : Rerun).Honest := by
  have built : ofText "3,9,3,9,4,9,1105,1,2,0" [5] false =
      .ok (ofCells [3, 9, 3, 9, 4, 9, 1105, 1, 2, 0] [5] false (by decide)) := rfl
  have gives : ((ofCells [3, 9, 3, 9, 4, 9, 1105, 1, 2, 0] [5] false (by decide)).run 9 3).bind
      (fun r ↦ (r.chain.run 9 4).map fun q ↦ (r.chain.last.state, q.result.toOption)) =
        some (.waitingForInput, some 4) := by decide +kernel
  obtain ⟨r, ran, again⟩ := Option.bind_eq_some_iff.mp gives
  obtain ⟨q, ran', told⟩ := Option.map_eq_some_iff.mp again
  obtain ⟨waiting, given⟩ := Prod.mk.inj told
  have result := ok_of_toOption given
  have runs := Runs.cons ran (.cons ran' (.nil q.chain))
  have honest := (run_honest_iff built runs (List.mem_cons_of_mem _ List.mem_cons_self)).1
  have clean : (⟨r.chain, 4, q⟩ : Rerun).Clean := .inl (by rw [waiting]; decide)
  exact ⟨_, r, q, built, runs, result, honest.mpr clean⟩

/-- One machine that answers its signal and halts gives its answer once more when it is run on
another signal, though nothing is fed. -/
theorem rerun_gives_stale_signal :
    ∃ c r q, ofText "3,7,3,8,4,8,99,0,0" [5] true = .ok c ∧
      Runs c [⟨c, 3, r⟩, ⟨r.chain, 4, q⟩] q.chain ∧ r.chain.last.state = .terminated ∧
      q.result = .ok 3 ∧ q.chain.feeds = r.chain.feeds ∧
      ¬(⟨r.chain, 4, q⟩ : Rerun).Fresh 3 ∧ ¬(⟨r.chain, 4, q⟩ : Rerun).Honest := by
  have built : ofText "3,7,3,8,4,8,99,0,0" [5] true =
      .ok (ofCells [3, 7, 3, 8, 4, 8, 99, 0, 0] [5] true (by decide)) := rfl
  have gives : ((ofCells [3, 7, 3, 8, 4, 8, 99, 0, 0] [5] true (by decide)).run 9 3).bind
      (fun r ↦ (r.chain.run 9 4).map fun q ↦
        (r.chain.last.state, q.result.toOption, r.chain.feeds, q.chain.feeds)) =
        some (.terminated, some 3, 1, 1) := by decide +kernel
  obtain ⟨r, ran, again⟩ := Option.bind_eq_some_iff.mp gives
  obtain ⟨q, ran', told⟩ := Option.map_eq_some_iff.mp again
  obtain ⟨halted, rest⟩ := Prod.mk.inj told
  obtain ⟨given, counts⟩ := Prod.mk.inj rest
  have result := ok_of_toOption given
  obtain ⟨before, after⟩ := Prod.mk.inj counts
  have stale : ¬(⟨r.chain, 4, q⟩ : Rerun).Fresh 3 := by
    rintro ⟨turns, d, s, -, some_turns, -, counted, -⟩
    have some_length := List.length_pos_iff.mpr some_turns
    have counted' : q.chain.feeds = r.chain.feeds + turns.length := counted
    omega
  exact ⟨_, r, q, built, .cons ran (.cons ran' (.nil q.chain)), halted, result,
    after.trans before.symm, stale, fun honest ↦ stale (honest.fresh 3 result)⟩

end Chain
end DecimalMachine
