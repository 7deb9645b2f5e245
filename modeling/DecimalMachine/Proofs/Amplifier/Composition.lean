import DecimalMachine.Proofs.Amplifier.Allowance
import DecimalMachine.Proofs.Amplifier.Relay

/-!
# Chains one behind the other

Without feedback every machine of a chain takes one turn, so a chain is its machines one behind the
other: each takes the signal that the one before it has answered. A chain of all phases therefore
gives what the chain of the last phases makes of the signal that the chain of the first ones gives.
-/

namespace DecimalMachine

/-- A new machine that has run on its phase answers the signal with one output. -/
def Carries (cells : List Int) (phase signal answer : Int) : Prop :=
  ∃ m n, (Machine.ofCells cells [phase] false).RunsTo m ∧ m.Takes ⟨signal, answer⟩ n

/-- New machines, one for each phase, hand the signal on from each to the next. -/
def Hands (cells : List Int) : List Int → Int → Int → Prop
  | [], signal, result => signal = result
  | p :: ps, signal, result =>
    ∃ answer, Carries cells p signal answer ∧ Hands cells ps answer result

variable {cells phases ps qs : List Int} {signal result : Int}

/-! ### Machines one behind the other -/

private theorem hands_singleton {p : Int} :
    Hands cells [p] signal result ↔ Carries cells p signal result := by
  simp [Hands]

private theorem hands_append :
    Hands cells (ps ++ qs) signal result ↔
      ∃ t, Hands cells ps signal t ∧ Hands cells qs t result := by
  induction ps generalizing signal with
  | nil => simp [Hands]
  | cons p ps ih =>
    simp only [List.cons_append, Hands, ih]
    constructor
    · rintro ⟨answer, carries, t, first, others⟩
      exact ⟨t, ⟨answer, carries, first⟩, others⟩
    · rintro ⟨t, ⟨answer, carries, first⟩, others⟩
      exact ⟨answer, carries, t, first, others⟩

private theorem Hands.carries {p : Int} (hands : Hands cells phases signal result)
    (mem : p ∈ phases) :
    ∃ s t, Carries cells p s t := by
  induction phases generalizing signal with
  | nil => cases mem
  | cons q qs ih =>
    obtain ⟨answer, carries, others⟩ := hands
    rcases List.mem_cons.mp mem with rfl | mem
    · exact ⟨signal, answer, carries⟩
    · exact ih others mem

namespace Chain

/-! ### From turns to machines one behind the other -/

/-- The machines of the chain are new machines that have run on their phases. -/
structure Ready (cells phases : List Int) (c : Chain) : Prop where
  size : c.size = phases.length
  machines : ∀ j p, phases[j]? = some p →
    (Machine.ofCells cells [p] false).RunsTo (c.machine j)

variable {c d : Chain} {s : Int} {turns : List Turn}

private theorem hands_of_flow (ready : c.Ready cells phases) (flow : Flow c signal turns d s)
    (first : turns.length ≤ phases.length) :
    Hands cells (phases.take turns.length) signal s := by
  induction flow with
  | start => rfl
  | @turn turns d t m flow going takes ih =>
    rw [List.length_append, List.length_singleton] at first ⊢
    have inside : turns.length < phases.length := first
    have phase : phases[turns.length]? = some phases[turns.length] :=
      List.getElem?_eq_getElem inside
    have same := flow.untouched (ready.size ▸ inside) (Nat.le_refl _)
    rw [List.take_add_one, phase, hands_append]
    refine ⟨t.fed, ih (by omega), hands_singleton.mpr ?_⟩
    exact ⟨_, m, ready.machines _ _ phase, same ▸ takes⟩

private theorem flow_of_hands (done rest : List Int) (ready : c.Ready cells phases)
    (alive : c.last.state ≠ .terminated) (flow : Flow c signal turns d s)
    (whole : phases = done ++ rest) (place : done.length = turns.length)
    (hands : Hands cells rest s result) :
    ∃ turns' d', Flow c signal turns' d' result ∧ turns'.length = phases.length := by
  -- The machines still to come are as they have settled, so each takes its turn as it would alone.
  induction rest generalizing done turns d s with
  | nil =>
    cases hands
    exact ⟨turns, d, flow, by rw [whole, List.append_nil, place]⟩
  | cons p rest ih =>
    obtain ⟨answer, ⟨m, n, runs, takes⟩, hands⟩ := hands
    have inside : turns.length < c.size := by
      rw [ready.size, whole, List.length_append, List.length_cons]
      omega
    have phase : phases[turns.length]? = some p := by
      rw [whole, ← place]
      simp
    have same : d.machine turns.length = m :=
      (flow.untouched inside (Nat.le_refl _)).trans ((ready.machines _ _ phase).unique runs)
    have last : d.last = c.last := by
      unfold last
      rw [flow.kept.1]
      exact flow.untouched (by omega) (by omega)
    have going : d.finished turns.length = false := by
      rw [finished_eq_false_iff, last, flow.kept.1]
      exact ⟨alive, fun _ ↦ inside⟩
    have next := flow.turn going (t := ⟨s, answer⟩) (same ▸ takes)
    have whole' : phases = (done ++ [p]) ++ rest := by
      rw [whole, List.append_assoc, List.singleton_append]
    have place' : (done ++ [p]).length = (turns ++ [(⟨s, answer⟩ : Turn)]).length := by
      rw [List.length_append, List.length_append, place]
      rfl
    exact ih (done ++ [p]) next whole' place' hands

private theorem Ready.alive (ready : c.Ready cells phases)
    (hands : Hands cells phases signal result) :
    c.last.state ≠ .terminated := by
  have inside : c.size - 1 < phases.length := ready.size ▸ Nat.sub_one_lt_of_lt c.nonempty
  obtain ⟨_, _, m, n, runs, takes⟩ := hands.carries (List.getElem_mem inside)
  rw [last, (ready.machines _ _ (List.getElem?_eq_getElem inside)).unique runs]
  exact takes.live.2

/-! ### Whole chains -/

private theorem Settles.ready {feedback : Bool} (some_phases : phases ≠ [])
    (settles : (ofCells cells phases feedback some_phases).Settles signal c) :
    c.Ready cells phases := by
  have size : (ofCells cells phases feedback some_phases).size = phases.length :=
    size_ofCells some_phases
  refine ⟨settles.size.trans size, fun j p phase ↦ ?_⟩
  have inside : j < phases.length := (List.getElem?_eq_some_iff.mp phase).1
  have runs := settles.machines j (size ▸ inside)
  rwa [machine_ofCells some_phases phase] at runs

/-- A new chain without feedback that gives a signal has handed it on from machine to machine. -/
theorem hands_of_run {allowance : Nat} {r : Response Int} (some_phases : phases ≠ [])
    (ran : (ofCells cells phases false some_phases).run allowance signal = some r)
    (ok : r.result = .ok result) : Hands cells phases signal result := by
  obtain ⟨settled, turns, rounds, settles, flow, -, whole, serial, -⟩ := rounds_of_run rfl ran ok
  have ready := settles.ready some_phases
  have once : turns.length = phases.length := by
    rw [whole, serial rfl, Nat.mul_one, size_ofCells]
  have hands := hands_of_flow ready flow (Nat.le_of_eq once)
  rwa [once, List.take_length] at hands

/-- A new chain whose machines hand a signal on gives it, without feedback. -/
theorem run_of_hands (some_phases : phases ≠ []) (hands : Hands cells phases signal result) :
    ∃ allowance r, (ofCells cells phases false some_phases).run allowance signal = some r ∧
      r.result = .ok result := by
  have size : (ofCells cells phases false some_phases).size = phases.length :=
    size_ofCells some_phases
  have runs (t : Nat) (turn : t ∈ List.range (ofCells cells phases false some_phases).size) :
      ∃ m, ((ofCells cells phases false some_phases).machine t).RunsTo m := by
    have inside : t < phases.length := size ▸ List.mem_range.mp turn
    obtain ⟨_, _, m, _, runs, -⟩ := hands.carries (List.getElem_mem inside)
    exact ⟨m, machine_ofCells some_phases (List.getElem?_eq_getElem inside) ▸ runs⟩
  obtain ⟨needed, settled⟩ :=
    settle_of_runs (fun t turn ↦ List.mem_range.mp turn) List.nodup_range runs
  obtain ⟨q, settled, ok⟩ := settled needed #[] (Nat.le_refl _)
  have settles := settles_of_settle settled ok signal
  have ready := settles.ready some_phases
  obtain ⟨turns, d, flow, once⟩ :=
    flow_of_hands [] phases ready (ready.alive hands) .start rfl rfl hands
  rw [← ready.size] at once
  obtain ⟨kept, -, feedback⟩ := flow.kept
  have done : d.finished turns.length = true := by
    simp [finished, feedback.trans settles.feedback, ofCells, kept, once]
  have fed : d.feeds ≠ 0 := by
    rw [flow.feeds, once]
    exact Nat.ne_of_gt (Nat.add_pos_right _ (Chain.nonempty _))
  have latest := flow.latest (once.trans (Nat.mul_one _).symm) Nat.one_pos
  obtain ⟨allowance, seen, ran⟩ := run_of_flow settled ok flow done
  exact ⟨allowance, _, ran, (conclude_of_fed fed latest seen).1⟩

/-- A new chain without feedback gives a signal exactly if its machines hand it on. -/
theorem amplifies_iff_hands {program : String} (parsed : Program.parse program = .ok cells)
    (some_phases : phases ≠ []) :
    Amplifies program phases false signal (.ok result) ↔ Hands cells phases signal result := by
  have built : ofText program phases false = .ok (ofCells cells phases false some_phases) := by
    simp only [ofText, dif_neg some_phases, parsed]
  unfold Amplifies amplify
  simp only [built, Option.map_eq_some_iff, Prod.mk.injEq]
  constructor
  · rintro ⟨allowance, events, r, ran, ok, -⟩
    exact hands_of_run some_phases ran ok
  · intro hands
    obtain ⟨allowance, r, ran, ok⟩ := run_of_hands some_phases hands
    exact ⟨allowance, r.events, r, ran, ok, rfl⟩

end Chain

/-! ### Chains of chains -/

private theorem parse_of_amplifies {program : String} {feedback : Bool}
    (h : Amplifies program phases feedback signal (.ok result)) :
    ∃ cells, Program.parse program = .ok cells := by
  obtain ⟨allowance, events, given⟩ := h
  cases parsed : Program.parse program with
  | ok cells => exact ⟨cells, rfl⟩
  | error f =>
    by_cases none : phases = []
    · simp [amplify, Chain.ofText, none] at given
    · simp [amplify, Chain.ofText, none, parsed] at given

/-- Without feedback, a chain of all phases gives what a chain of the last ones makes of the signal
that a chain of the first ones gives. -/
theorem serial_chains_compose {program : String} (some_ps : ps ≠ []) (some_qs : qs ≠ []) :
    Amplifies program (ps ++ qs) false signal (.ok result) ↔
      ∃ t, Amplifies program ps false signal (.ok t) ∧
        Amplifies program qs false t (.ok result) := by
  have some_phases : ps ++ qs ≠ [] := List.append_ne_nil_of_left_ne_nil some_ps qs
  constructor
  · intro all
    obtain ⟨cells, parsed⟩ := parse_of_amplifies all
    rw [Chain.amplifies_iff_hands parsed some_phases, hands_append] at all
    obtain ⟨t, first, others⟩ := all
    exact ⟨t, (Chain.amplifies_iff_hands parsed some_ps).mpr first,
      (Chain.amplifies_iff_hands parsed some_qs).mpr others⟩
  · rintro ⟨t, first, others⟩
    obtain ⟨cells, parsed⟩ := parse_of_amplifies first
    rw [Chain.amplifies_iff_hands parsed some_ps] at first
    rw [Chain.amplifies_iff_hands parsed some_qs] at others
    rw [Chain.amplifies_iff_hands parsed some_phases, hands_append]
    exact ⟨t, first, others⟩

/-- Five machines that each add their digit behind those of the signal pass it on as two of them and
three of them do. -/
theorem serial_chains_compose_digits :
    Amplifies "3,15,3,16,1002,16,10,16,1,16,15,15,4,15,99,0,0" ([4, 3] ++ [2, 1, 0]) false 0
        (.ok 43210) ∧
      ∃ t, Amplifies "3,15,3,16,1002,16,10,16,1,16,15,15,4,15,99,0,0" [4, 3] false 0 (.ok t) ∧
        Amplifies "3,15,3,16,1002,16,10,16,1,16,15,15,4,15,99,0,0" [2, 1, 0] false t
          (.ok 43210) := by
  have first : Amplifies "3,15,3,16,1002,16,10,16,1,16,15,15,4,15,99,0,0" [4, 3] false 0
      (.ok 43) := amplifies_of_signal 8 (by decide +kernel)
  have others : Amplifies "3,15,3,16,1002,16,10,16,1,16,15,15,4,15,99,0,0" [2, 1, 0] false 43
      (.ok 43210) := amplifies_of_signal 8 (by decide +kernel)
  have all := (serial_chains_compose (by decide) (by decide)).mpr ⟨43, first, others⟩
  exact ⟨all, (serial_chains_compose (by decide) (by decide)).mp all⟩

end DecimalMachine
