import DecimalMachine.Proofs.Amplifier.Rounds

/-!
# Chains that give a signal

When the first run of a new chain gives a signal, it has settled every machine on its phase and then
gone round a whole number of times. What every machine was fed and what it answered can be told from
that, and every machine ends as one that had all its inputs from the start.
-/

namespace DecimalMachine.Chain

/-- A run that gives a signal settles every machine, and then takes turns until the chain has
finished; the chain is left as the turns have left it, but for the signal. -/
theorem flow_of_run {allowance : Nat} {c : Chain} {signal result : Int} {r : Response Int}
    (ran : c.run allowance signal = some r) (ok : r.result = .ok result) :
    ∃ settled turns d s, c.Settles signal settled ∧ Flow settled signal turns d s ∧
      d.finished turns.length = true ∧ d.feeds ≠ 0 ∧ d.last.outputs.last? = some result ∧
      r.chain = { d with signal := some result } := by
  rcases run_cases ran with ⟨-, -, j, -, q, f, -, -, told, -⟩ |
    ⟨settled, turns, d, s, settles, flow, ⟨done, seen, rfl⟩ | ⟨-, q, e, -, -, told, -⟩⟩
  · cases told.symm.trans ok
  · exact ⟨settled, turns, d, s, settles, flow, done, conclude_ok ok⟩
  · cases told.symm.trans ok

/-- The run of a new chain that gives a signal goes round a whole number of times, and just once
without feedback. -/
theorem rounds_of_run {allowance : Nat} {c : Chain} {signal result : Int} {r : Response Int}
    (fresh : c.feeds = 0) (ran : c.run allowance signal = some r) (ok : r.result = .ok result) :
    ∃ settled turns rounds, c.Settles signal settled ∧ Flow settled signal turns r.chain result ∧
      0 < rounds ∧ turns.length = c.size * rounds ∧ (c.feedback = false → rounds = 1) ∧
      r.chain.last.outputs.last? = some result := by
  obtain ⟨settled, turns, d, s, settles, flow, done, fed, last, left⟩ := flow_of_run ran ok
  have some_turns : turns ≠ [] := by
    rintro rfl
    exact fed (flow.feeds.trans (settles.feeds.trans fresh))
  obtain ⟨rounds, some_rounds, whole, once⟩ := flow.whole some_turns done
  obtain rfl : s = result :=
    Option.some.inj ((flow.latest whole some_rounds).symm.trans last)
  have after : r.chain = d := by
    rw [left, ← flow.next_signal settles.given]
  rw [after]
  rw [settles.size] at whole
  rw [settles.feedback] at once
  exact ⟨settled, turns, rounds, settles, flow, some_rounds, whole, once, last⟩

/-! ### What the machines have been through -/

/-- How a chain has passed a signal on, from when it was new to when it gave its result. -/
structure Relay (c : Chain) (signal : Int) (settled : Chain) (turns : List Turn) (rounds : Nat)
    (after : Chain) (result : Int) : Prop where
  /-- Every machine has run on its phase first. -/
  settles : settled.size = c.size ∧ ∀ j < c.size, (c.machine j).RunsTo (settled.machine j)
  /-- Then the signal was passed on, turn by turn. -/
  flow : Flow settled signal turns after result
  some_rounds : 0 < rounds
  /-- Without feedback there was one round only. -/
  serial : c.feedback = false → rounds = 1
  feeds : after.feeds = c.size * rounds
  /-- Every machine has had one turn in every round. -/
  shares : ∀ j < c.size, (share c.size j turns).length = rounds
  /-- Every machine has taken its turns, one output for each. -/
  serves : ∀ j < c.size, (settled.machine j).Serves (share c.size j turns) (after.machine j)
  outputs : ∀ j < c.size, (after.machine j).outputs.toList =
    (settled.machine j).outputs.toList ++ answersOf c.size turns j
  /-- A machine was fed the answers of the one before it. -/
  passed : ∀ j, j + 1 < c.size → fedTo c.size turns (j + 1) = answersOf c.size turns j
  /-- The first machine was fed the signal, and then all answers of the last one but the last. -/
  returned : fedTo c.size turns 0 =
    signal :: (answersOf c.size turns (c.size - 1)).take (rounds - 1)
  /-- The last output of the last machine is the result. -/
  result : after.last.outputs.last? = some result
  /-- No machine has inputs left. -/
  exhausted : ∀ j < c.size, (after.machine j).inputs = []
  /-- Every machine has come to the end that it comes to alone. -/
  alone : ∀ j < c.size, ((c.machine j).supply (fedTo c.size turns j)).Ends
    (.ok (after.machine j).state) (after.machine j).bare

private theorem alone_of_serves {m n k : Machine} {turns : List Turn} (runs : m.RunsTo n)
    (serves : n.Serves turns k) :
    (m.supply (turns.map (·.fed))).Ends (.ok k.state) k.bare := by
  have resting := (serves.idle runs.idle).1
  have ends : (k.supply []).Ends (.ok k.state) k.bare := by
    rw [Machine.supply_nil]
    exact resting.ends
  have earlier := serves.ends ends
  rw [List.append_nil] at earlier
  exact runs.ends earlier

/-- The run of a new chain that gives a signal is a relay. -/
theorem relay_of_run {allowance : Nat} {c : Chain} {signal result : Int} {r : Response Int}
    (fresh : c.feeds = 0) (ran : c.run allowance signal = some r) (ok : r.result = .ok result) :
    ∃ settled turns rounds, Relay c signal settled turns rounds r.chain result := by
  obtain ⟨settled, turns, rounds, ⟨size, -, -, feeds, -, settles⟩, flow, some_rounds, whole,
    serial, last⟩ := rounds_of_run fresh ran ok
  rw [← size] at whole
  have passed (j : Nat) (inside : j + 1 < settled.size) := flow.passed whole inside
  have returned := flow.returned whole some_rounds
  have serves (j : Nat) (inside : j < settled.size) := flow.serves inside
  have shares (j : Nat) (inside : j < settled.size) :
      (share settled.size j turns).length = rounds := length_share inside whole
  have counted : r.chain.feeds = settled.size * rounds := by
    rw [flow.feeds, feeds, fresh, Nat.zero_add, whole]
  rw [size] at counted passed returned serves shares
  exact ⟨settled, turns, rounds,
    { settles := ⟨size, settles⟩
      flow := flow
      some_rounds := some_rounds
      serial := serial
      feeds := counted
      shares := shares
      serves := serves
      outputs := fun j inside ↦ (serves j inside).outputs
      passed := passed
      returned := returned.1
      result := last
      exhausted := fun j inside ↦ ((serves j inside).idle (settles j inside).idle).2 fun none ↦ by
        have count := shares j inside
        rw [none] at count
        exact absurd count (Nat.ne_of_lt some_rounds)
      alone := fun j inside ↦ alone_of_serves (settles j inside) (serves j inside) }⟩

/-! ### New chains -/

/-- When the first run of a new chain gives a signal, the signal has gone round a whole number of
times, and every machine is left as a new machine is left that has its phase and all that was fed to
it from the start and is run once. -/
theorem first_run_is_relay {program : String} {phases : List Int} {feedback : Bool}
    {c : Chain} {allowance : Nat} {signal result : Int} {r : Response Int}
    (built : ofText program phases feedback = .ok c) (ran : c.run allowance signal = some r)
    (ok : r.result = .ok result) :
    c.size = phases.length ∧ c.feedback = feedback ∧
      ∃ settled turns rounds, Relay c signal settled turns rounds r.chain result ∧
        ∀ j p, phases[j]? = some p →
          Machine.ofText program [p] false = .ok (c.machine j) ∧
          ∃ whole q,
            Machine.ofText program (p :: fedTo phases.length turns j) false = .ok whole ∧
              whole.Answers .run q ∧ q.result = .ok (.state (r.chain.machine j).state) ∧
              q.machine.bare = (r.chain.machine j).bare := by
  unfold ofText at built
  split at built
  · cases built
  · next some_phases =>
    unfold Machine.ofText
    cases parsed : Program.parse program with
    | error f =>
      rw [parsed] at built
      cases built
    | ok cells =>
      rw [parsed] at built
      cases built
      have size : (ofCells cells phases feedback some_phases).size = phases.length := by
        simp [Chain.size, ofCells]
      obtain ⟨settled, turns, rounds, relay⟩ := relay_of_run rfl ran ok
      refine ⟨size, rfl, settled, turns, rounds, relay, fun j p phase ↦ ?_⟩
      have inside : j < phases.length := (List.getElem?_eq_some_iff.mp phase).1
      have ends := relay.alone j (size ▸ inside)
      rw [machine_ofCells some_phases phase, size] at ends
      obtain ⟨q, answers, stopped, left⟩ := Machine.ends_iff_answers.mp ends
      exact ⟨by rw [machine_ofCells some_phases phase]; rfl, _, q, rfl, answers, stopped, left⟩

/-- Two machines that double and add pass a signal round twice. -/
theorem first_run_is_relay_twice :
    ∃ c r,
      ofText "3,26,1001,26,-4,26,3,27,1002,27,2,27,1,27,26,27,4,27,1001,28,-1,28,1005,28,6,99,0,0,2"
          [6, 5] true = .ok c ∧
        c.run 12 1 = some r ∧ r.result = .ok 41 ∧
        ∃ settled turns rounds, Relay c 1 settled turns rounds r.chain 41 := by
  have built : ofText
      "3,26,1001,26,-4,26,3,27,1002,27,2,27,1,27,26,27,4,27,1001,28,-1,28,1005,28,6,99,0,0,2"
      [6, 5] true =
    .ok (ofCells [3, 26, 1001, 26, -4, 26, 3, 27, 1002, 27, 2, 27, 1, 27, 26, 27, 4, 27, 1001, 28,
      -1, 28, 1005, 28, 6, 99, 0, 0, 2] [6, 5] true (by decide)) := rfl
  have gives : ((ofCells [3, 26, 1001, 26, -4, 26, 3, 27, 1002, 27, 2, 27, 1, 27, 26, 27, 4, 27,
      1001, 28, -1, 28, 1005, 28, 6, 99, 0, 0, 2] [6, 5] true (by decide)).run 12 1).map
        (·.result.toOption) = some (some 41) := by decide +kernel
  obtain ⟨r, ran, given⟩ := Option.map_eq_some_iff.mp gives
  have ok : r.result = .ok 41 := by
    cases hr : r.result with
    | error e => simp [hr, Except.toOption] at given
    | ok v => simpa [hr, Except.toOption] using given
  obtain ⟨-, -, settled, turns, rounds, relay, -⟩ := first_run_is_relay built ran ok
  exact ⟨_, r, built, ran, ok, settled, turns, rounds, relay⟩

end DecimalMachine.Chain
