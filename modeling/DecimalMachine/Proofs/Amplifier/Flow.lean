import DecimalMachine.Amplifier.Chain
import DecimalMachine.Proofs.Amplifier.Turns

/-!
# The signal goes round

The turns of a whole chain, one after the other, with the signal that each passes to the next. The
machines are independent of each other: every one serves its share of the turns as if there were no
others. A chain that has finished has gone round a whole number of times.
-/

namespace DecimalMachine.Chain

/-- The chain after the machine of a turn has answered. -/
def advance (c : Chain) (turn : Nat) (m : Machine) (answer : Int) : Chain :=
  { c.replace turn m with signal := some answer, feeds := c.feeds + 1 }

/-- The chain has taken turns since it was first given a signal, and has become another chain with
another signal to be fed next. -/
inductive Flow (c : Chain) (signal : Int) : List Turn → Chain → Int → Prop
  | start : Flow c signal [] c signal
  | turn {turns : List Turn} {d : Chain} {t : Turn} {m : Machine}
      (flow : Flow c signal turns d t.fed) (going : d.finished turns.length = false)
      (takes : (d.machine turns.length).Takes t m) :
      Flow c signal (turns ++ [t]) (d.advance turns.length m t.answer) t.answer

/-- What the machine at a place was fed in its share of the turns. -/
def fedTo (size : Nat) (turns : List Turn) (place : Nat) : List Int :=
  (share size place turns).map (·.fed)

/-- What the machine at a place answered in its share of the turns. -/
def answersOf (size : Nat) (turns : List Turn) (place : Nat) : List Int :=
  (share size place turns).map (·.answer)

/-! ### Machines by their turns -/

/-- A new chain has as many machines as phases. -/
@[simp] theorem size_ofCells {cells phases : List Int} {feedback : Bool} (h : phases ≠ []) :
    (ofCells cells phases feedback h).size = phases.length := by
  simp [size, ofCells]

/-- A new chain has a new machine for every phase. -/
theorem machine_ofCells {cells phases : List Int} {feedback : Bool} (h : phases ≠ []) {j : Nat}
    {p : Int} (phase : phases[j]? = some p) :
    (ofCells cells phases feedback h).machine j = Machine.ofCells cells [p] false := by
  obtain ⟨inside, rfl⟩ := List.getElem?_eq_some_iff.mp phase
  simp [machine, ofCells, Nat.mod_eq_of_lt inside]

/-- It is the same machine's turn again after a whole round. -/
theorem machine_congr {c : Chain} {i j : Nat} (h : i % c.size = j % c.size) :
    c.machine i = c.machine j := by
  unfold size at h
  simp only [machine, h]

/-- Another machine is not replaced. -/
theorem machine_replace_of_ne {c : Chain} {i j : Nat} (m : Machine) (h : i % c.size ≠ j % c.size) :
    (c.replace i m).machine j = c.machine j := by
  simp only [replace, machine, Array.size_set]
  exact Array.getElem_set_ne _ _ h

/-- Replacing a machine by itself changes nothing. -/
theorem replace_machine (c : Chain) (i : Nat) : c.replace i (c.machine i) = c := by
  simp [replace, machine]

/-- A turn keeps the number of machines. -/
@[simp] theorem size_advance (c : Chain) (turn : Nat) (m : Machine) (answer : Int) :
    (c.advance turn m answer).size = c.size :=
  size_replace c turn m

private theorem machine_advance {c : Chain} {i j : Nat} (m : Machine) (answer : Int) :
    (c.advance i m answer).machine j =
      if i % c.size = j % c.size then m else c.machine j := by
  show (c.replace i m).machine j = _
  split
  · next same =>
    have again : (c.replace i m).machine j = (c.replace i m).machine i :=
      machine_congr (by rw [size_replace, same])
    rw [again, machine_replace_self]
  · next other => exact machine_replace_of_ne m other

/-- A chain goes on while its last machine has not halted and, without feedback, not every machine
has had its turn. -/
theorem finished_eq_false_iff {c : Chain} {turn : Nat} :
    c.finished turn = false ↔
      c.last.state ≠ .terminated ∧ (c.feedback = false → turn < c.size) := by
  simp [finished]

/-- Before any turn only the state of the last machine finishes a chain. -/
theorem finished_zero_iff {c : Chain} : c.finished 0 = true ↔ c.last.state = .terminated := by
  have positive : c.size ≠ 0 := Nat.ne_of_gt c.nonempty
  simp [finished, positive]

private theorem turn_of_finished {c : Chain} {i : Nat} {m : Machine} {answer : Int}
    (going : c.finished i = false) (done : (c.advance i m answer).finished (i + 1) = true) :
    i % c.size = c.size - 1 := by
  obtain ⟨alive, early⟩ := finished_eq_false_iff.mp going
  have positive : 0 < c.size := c.nonempty
  refine Decidable.byContradiction fun other ↦ ?_
  have untouched : (c.advance i m answer).last = c.last := by
    unfold last
    rw [machine_advance, size_advance, Nat.mod_eq_of_lt (by omega : c.size - 1 < c.size),
      if_neg other]
  have goes_on : (c.advance i m answer).finished (i + 1) = false := by
    refine finished_eq_false_iff.mpr ⟨untouched ▸ alive, fun serial ↦ ?_⟩
    have inside := early serial
    rw [Nat.mod_eq_of_lt inside] at other
    rw [size_advance]
    omega
  rw [goes_on] at done
  cases done

namespace Flow

variable {c d : Chain} {signal s : Int} {turns : List Turn}

/-- A chain keeps its number of machines, its phases and whether it has feedback. -/
theorem kept (flow : Flow c signal turns d s) :
    d.size = c.size ∧ d.phases = c.phases ∧ d.feedback = c.feedback := by
  induction flow with
  | start => exact ⟨rfl, rfl, rfl⟩
  | turn _ _ _ ih => exact ⟨(size_advance ..).trans ih.1, ih.2⟩

/-- Without any turn the chain is the same. -/
theorem of_nil (flow : Flow c signal turns d s) (none : turns = []) : d = c := by
  cases flow with
  | start => rfl
  | turn _ _ _ => exact absurd none (List.append_ne_nil_of_right_ne_nil _ (List.cons_ne_nil _ _))

/-- A chain that has finished takes no turn. -/
theorem of_finished (flow : Flow c signal turns d s) (done : c.finished 0 = true) :
    turns = [] ∧ d = c := by
  induction flow with
  | start => exact ⟨rfl, rfl⟩
  | turn _ going _ ih =>
    obtain ⟨rfl, rfl⟩ := ih
    cases done.symm.trans going

/-- Every turn is counted. -/
theorem feeds (flow : Flow c signal turns d s) : d.feeds = c.feeds + turns.length := by
  induction flow with
  | start => rfl
  | turn _ _ _ ih =>
    rw [List.length_append, ← Nat.add_assoc, ← ih]
    rfl

/-- The signal to be fed next is kept. -/
theorem next_signal (flow : Flow c signal turns d s) (given : c.signal = some signal) :
    d.signal = some s := by
  cases flow with
  | start => exact given
  | turn _ _ _ => rfl

/-- Every machine is fed what the one before it has answered, and the first one the signal. -/
theorem shifted (flow : Flow c signal turns d s) :
    turns.map (·.fed) ++ [s] = signal :: turns.map (·.answer) := by
  induction flow with
  | start => rfl
  | turn _ _ _ ih =>
    rw [List.map_append, List.map_append, ← List.cons_append, ← ih]
    rfl

/-- Every machine serves its share of the turns. -/
theorem serves (flow : Flow c signal turns d s) {j : Nat} (inside : j < c.size) :
    (c.machine j).Serves (share c.size j turns) (d.machine j) := by
  induction flow with
  | start => exact .nil
  | @turn turns d t m flow _ takes ih =>
    rw [share_append_singleton inside, machine_advance, flow.kept.1, Nat.mod_eq_of_lt inside]
    by_cases due : turns.length % c.size = j
    · rw [if_pos due, if_pos due]
      have same : d.machine turns.length = d.machine j :=
        machine_congr (by rw [flow.kept.1, due, Nat.mod_eq_of_lt inside])
      exact .snoc ih (same ▸ takes)
    · rw [if_neg due, if_neg due, List.append_nil]
      exact ih

/-- Before its first turn a machine is as it was. -/
theorem untouched (flow : Flow c signal turns d s) {j : Nat} (inside : j < c.size)
    (before : turns.length ≤ j) : d.machine j = c.machine j := by
  exact (flow.serves inside).of_nil (share_of_short before)

/-- A chain that finishes after some turns has gone round a whole number of times, and just once if
it has no feedback. -/
theorem whole (flow : Flow c signal turns d s) (some_turns : turns ≠ [])
    (done : d.finished turns.length = true) :
    ∃ rounds, 0 < rounds ∧ turns.length = c.size * rounds ∧
      (c.feedback = false → rounds = 1) := by
  cases flow with
  | start => exact absurd rfl some_turns
  | @turn turns d t m flow going takes =>
    obtain ⟨size, -, feedback⟩ := flow.kept
    have positive : 0 < c.size := c.nonempty
    rw [List.length_append, List.length_singleton] at done ⊢
    have last_turn := turn_of_finished going done
    rw [size] at last_turn
    have round : (turns.length + 1) % c.size = 0 := by rw [succ_mod positive, if_pos last_turn]
    obtain ⟨rounds, count⟩ := Nat.dvd_of_mod_eq_zero round
    refine ⟨rounds, Nat.pos_of_ne_zero ?_, count, fun serial ↦ ?_⟩
    · rintro rfl
      cases count
    · have early := (finished_eq_false_iff.mp going).2 (feedback.trans serial)
      rw [Nat.mod_eq_of_lt (size ▸ early)] at last_turn
      refine Nat.eq_of_mul_eq_mul_left positive ?_
      omega

/-- In whole rounds a machine is fed the answers of the one before it. -/
theorem passed {rounds j : Nat} (flow : Flow c signal turns d s)
    (count : turns.length = c.size * rounds) (inside : j + 1 < c.size) :
    fedTo c.size turns (j + 1) = answersOf c.size turns j := by
  have count' : (turns.map (·.fed)).length = c.size * rounds := by rw [List.length_map, count]
  rw [fedTo, answersOf, ← share_map, ← share_map]
  exact share_succ_of_shifted inside count' flow.shifted

/-- In whole rounds the first machine is fed the signal and then the answers of the last one, but
for the last of them: that is to be fed next. -/
theorem returned {rounds : Nat} (flow : Flow c signal turns d s)
    (count : turns.length = c.size * rounds) (some_rounds : 0 < rounds) :
    fedTo c.size turns 0 =
        signal :: (answersOf c.size turns (c.size - 1)).take (rounds - 1) ∧
      (answersOf c.size turns (c.size - 1)).getLast? = some s := by
  have positive : 0 < c.size := c.nonempty
  have count' : (turns.map (·.fed)).length = c.size * rounds := by rw [List.length_map, count]
  have same : fedTo c.size turns 0 ++ [s] = signal :: answersOf c.size turns (c.size - 1) := by
    rw [fedTo, answersOf, ← share_map, ← share_map]
    exact share_zero_of_shifted positive count' flow.shifted
  have answered : (answersOf c.size turns (c.size - 1)).length = rounds := by
    rw [answersOf, List.length_map, length_share (by omega) count]
  rw [← answered]
  apply last_of_returned same
  intro none
  rw [none] at answered
  exact absurd answered (Nat.ne_of_lt some_rounds)

/-- After whole rounds the latest output of the last machine is to be fed next. -/
theorem latest {rounds : Nat} (flow : Flow c signal turns d s)
    (count : turns.length = c.size * rounds) (some_rounds : 0 < rounds) :
    d.last.outputs.last? = some s := by
  have inside : c.size - 1 < c.size := Nat.sub_one_lt_of_lt c.nonempty
  have outputs := (flow.serves inside).outputs
  rw [last, flow.kept.1, Outputs.last?_eq, outputs, List.getLast?_append, ← answersOf,
    (flow.returned count some_rounds).2]
  rfl

end Flow
end DecimalMachine.Chain
