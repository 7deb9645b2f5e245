import DecimalMachine.Proofs.Amplifier.Rounds
import DecimalMachine.Proofs.Machine.Failure
import Mathlib.Logic.ExistsUnique

/-!
# How a chain ends

The first run of a chain ends in one of five ways, if it stops. The signal has gone round and is
given; or the last machine has halted on its phase, so that nothing was fed; or a machine has
answered an input with more or fewer outputs than one; or a machine has broken; or a machine that
has halted is to be fed. The response tells which way it was.
-/

namespace DecimalMachine.Chain

/-! ### Where a run has come -/

/-- A run of the first chain has settled all machines and taken the turns, and has come to the
second chain, with a signal to be fed next. -/
def Reaches (c : Chain) (signal : Int) (turns : List Turn) (d : Chain) (s : Int) : Prop :=
  ∃ settled, c.Settles signal settled ∧ Flow settled signal turns d s

namespace Reaches

variable {c d : Chain} {signal s : Int} {turns : List Turn}

private theorem kept (reaches : c.Reaches signal turns d s) :
    d.size = c.size ∧ d.feedback = c.feedback := by
  obtain ⟨settled, settles, flow⟩ := reaches
  obtain ⟨size, -, feedback⟩ := flow.kept
  exact ⟨size.trans settles.size, feedback.trans settles.feedback⟩

private theorem feeds (reaches : c.Reaches signal turns d s) (fresh : c.feeds = 0) :
    d.feeds = turns.length := by
  obtain ⟨settled, settles, flow⟩ := reaches
  rw [flow.feeds, settles.feeds, fresh, Nat.zero_add]

/-- Between two turns all machines are at rest. -/
theorem idle (reaches : c.Reaches signal turns d s) (j : Nat) : (d.machine j).Idle := by
  obtain ⟨size, -⟩ := reaches.kept
  obtain ⟨settled, settles, flow⟩ := reaches
  have inside : j % d.size < settled.size := by
    rw [settles.size, ← size]
    exact Nat.mod_lt j d.nonempty
  have same : d.machine j = d.machine (j % d.size) := machine_congr (Nat.mod_mod j d.size).symm
  rw [same]
  exact ((flow.serves inside).idle (settles.machines _ (settles.size ▸ inside)).idle).1

end Reaches

/-- Every machine can be run on its phase, and the last one halts on its own. -/
def Mute (c : Chain) : Prop :=
  (∀ j < c.size, ∃ m, (c.machine j).RunsTo m) ∧ ∃ m, c.last.RunsTo m ∧ m.state = .terminated

private theorem Mute.finished {c d : Chain} {signal : Int} (mute : c.Mute)
    (settles : c.Settles signal d) :
    d.finished 0 = true := by
  obtain ⟨m, runs, halted⟩ := mute.2
  have inside : c.size - 1 < c.size := Nat.sub_one_lt_of_lt c.nonempty
  have same : d.last = m := by
    rw [last, settles.size]
    exact (settles.machines (c.size - 1) inside).unique runs
  exact finished_zero_iff.mpr (same ▸ halted)

/-- The run of a mute chain stops. -/
theorem Mute.stops {c : Chain} (mute : c.Mute) (signal : Int) :
    ∃ allowance r, c.run allowance signal = some r := by
  obtain ⟨needed, settles⟩ := settle_of_runs (fun t ht ↦ List.mem_range.mp ht) List.nodup_range
    fun t ht ↦ mute.1 t (List.mem_range.mp ht)
  obtain ⟨q, settled, ok⟩ := settles (needed + 1) #[] (by omega)
  have done := mute.finished (settles_of_settle settled ok signal)
  refine ⟨needed + 1, ({ q.chain with signal := some signal } : Chain).conclude q.events, ?_⟩
  simp only [run, settled, ok]
  rw [rounds, if_pos done]

/-! ### Endings -/

/-- The ways in which the first run of a chain ends. -/
inductive Ending where
  /-- A signal is given. -/
  | signal
  /-- The last machine has halted before anything could be fed. -/
  | silence
  /-- A machine has not answered an input with one output. -/
  | miscount
  /-- A machine has broken. -/
  | fault
  /-- A machine that has halted is to be fed. -/
  | refusal
  deriving DecidableEq, Repr

/-- What is known of a run of a new chain that has ended in some way. -/
inductive Closes (c : Chain) (signal : Int) (r : Response Int) : Ending → Prop
  /-- The signal has gone round a whole number of times, just once if there is no feedback. -/
  | signal {v : Int} {rounds : Nat} (told : r.result = .ok v) (some_rounds : 0 < rounds)
      (feeds : r.chain.feeds = c.size * rounds) (serial : c.feedback = false → rounds = 1)
      (halted : c.feedback = true → r.chain.last.state = .terminated) : Closes c signal r .signal
  /-- Every machine has run on its phase, the last one has halted on its own, and none was fed. -/
  | silence (told : r.result = .error (.breach (.noSignal (c.size - 1))))
      (feeds : r.chain.feeds = 0)
      (settled : ∀ j < c.size, (c.machine j).RunsTo (r.chain.machine j))
      (halted : (r.chain.machine (c.size - 1)).state = .terminated) : Closes c signal r .silence
  /-- The machine whose turn it was has been fed, and did not answer with one output. -/
  | miscount {turns : List Turn} {d : Chain} {s : Int} {allowance : Nat}
      {q : DecimalMachine.Response State} {state : State} {new : List Int}
      (reaches : c.Reaches signal turns d s) (going : d.finished turns.length = false)
      (fed : (d.machine turns.length).feed allowance s = some q) (returned : q.result = .ok state)
      (outputs : q.machine.outputs.toList = (d.machine turns.length).outputs.toList ++ new)
      (miscounted : new.length ≠ 1) (left : r.chain = d.replace turns.length q.machine)
      (feeds : r.chain.feeds = turns.length)
      (told : r.result = .error (.breach (.outputCount new.length (r.chain.feeds % c.size)))) :
      Closes c signal r .miscount
  /-- A machine has broken while it ran on its phase, before anything was fed. -/
  | unsettled {j allowance : Nat} {q : DecimalMachine.Response State} {f : Fault}
      (inside : j < c.size) (ran : (c.machine j).run allowance = some q)
      (failed : q.result = .error f) (left : r.chain.machine j = q.machine)
      (kept : (r.chain.machine j).fault = some f) (feeds : r.chain.feeds = 0)
      (told : r.result = .error (.machine f)) : Closes c signal r .fault
  /-- The machine whose turn it was has been fed, and has broken. -/
  | broken {turns : List Turn} {d : Chain} {s : Int} {allowance : Nat}
      {q : DecimalMachine.Response State} {f : Fault}
      (reaches : c.Reaches signal turns d s) (going : d.finished turns.length = false)
      (fed : (d.machine turns.length).feed allowance s = some q) (failed : q.result = .error f)
      (left : r.chain = d.replace turns.length q.machine)
      (kept : (r.chain.machine turns.length).fault = some f)
      (feeds : r.chain.feeds = turns.length) (told : r.result = .error (.machine f)) :
      Closes c signal r .fault
  /-- The machine whose turn it was has halted before, and refuses the signal; it is not the last
  one, and no machine is broken. -/
  | refusal {turns : List Turn} {d : Chain} {s : Int} (reaches : c.Reaches signal turns d s)
      (going : d.finished turns.length = false)
      (halted : (r.chain.machine (r.chain.feeds % c.size)).state = .terminated)
      (inner : r.chain.feeds % c.size ≠ c.size - 1) (left : r.chain = d)
      (feeds : r.chain.feeds = turns.length) (unbroken : ∀ j, (r.chain.machine j).fault = none)
      (told : r.result = .error (.machine (.fedAfterHalt s))) : Closes c signal r .refusal

/-- The way in which a run has ended, as its response tells. -/
def Response.ending (r : Response Int) : Ending :=
  match r.result with
  | .ok _ => .signal
  | .error (.breach (.noSignal _)) => .silence
  | .error (.breach _) => .miscount
  | .error (.machine _) =>
    if ∃ j < r.chain.size, (r.chain.machine j).fault ≠ none then .fault else .refusal

private theorem exists_fault {c : Chain} {j : Nat} {f : Fault}
    (broken : (c.machine j).fault = some f) :
    ∃ j < c.size, (c.machine j).fault ≠ none := by
  refine ⟨j % c.size, Nat.mod_lt j c.nonempty, ?_⟩
  rw [machine_congr (Nat.mod_mod j c.size), broken]
  exact Option.some_ne_none f

private theorem Closes.ending {c : Chain} {signal : Int} {r : Response Int} {e : Ending}
    (closes : c.Closes signal r e) : r.ending = e := by
  cases closes with
  | signal told => simp only [Response.ending, told]
  | silence told => simp only [Response.ending, told]
  | miscount _ _ _ _ _ _ _ _ told => simp only [Response.ending, told]
  | unsettled _ _ _ _ kept _ told => simp only [Response.ending, told, if_pos (exists_fault kept)]
  | broken _ _ _ _ _ kept _ told => simp only [Response.ending, told, if_pos (exists_fault kept)]
  | refusal _ _ _ _ _ _ unbroken told =>
    have none_broken : ¬∃ j < r.chain.size, (r.chain.machine j).fault ≠ none := by
      rintro ⟨j, -, broken⟩
      exact broken (unbroken j)
    simp only [Response.ending, told, if_neg none_broken]

/-! ### Every run ends in one of these ways -/

section

variable {c d : Chain} {signal s : Int} {turns : List Turn}

private theorem silence_of_finished (fresh : c.feeds = 0) (reaches : c.Reaches signal [] d s)
    (done : d.finished 0 = true) (seen : Array Event) :
    c.Closes signal (d.conclude seen) .silence := by
  have unfed : d.feeds = 0 := reaches.feeds fresh
  obtain ⟨size, -⟩ := reaches.kept
  obtain ⟨settled, settles, flow⟩ := reaches
  cases flow.of_nil rfl
  have halted := finished_zero_iff.mp done
  rw [conclude_of_unfed unfed, size]
  rw [last, size] at halted
  exact .silence rfl unfed settles.machines halted

private theorem signal_of_finished (fresh : c.feeds = 0) (reaches : c.Reaches signal turns d s)
    (some_turns : turns ≠ []) (done : d.finished turns.length = true) (seen : Array Event) :
    c.Closes signal (d.conclude seen) .signal := by
  have counted := reaches.feeds fresh
  obtain ⟨size, feedback⟩ := reaches.kept
  have ⟨settled, settles, flow⟩ := reaches
  obtain ⟨rounds, some_rounds, whole, serial⟩ := flow.whole some_turns done
  have latest := flow.latest whole some_rounds
  rw [settles.size] at whole
  rw [settles.feedback] at serial
  have fed : d.feeds ≠ 0 := by
    rw [counted]
    exact fun none ↦ some_turns (List.length_eq_zero_iff.mp none)
  obtain ⟨result, left⟩ := conclude_of_fed fed latest seen
  refine .signal result some_rounds ?_ serial ?_
  · rw [left]
    exact counted.trans whole
  · intro back
    have halted : d.last.state = .terminated := by simpa [finished, feedback, back] using done
    rw [left]
    exact halted

private theorem refusal_of_halted {r : Response Int} (fresh : c.feeds = 0)
    (reaches : c.Reaches signal turns d s) (going : d.finished turns.length = false)
    (halted : (d.machine turns.length).state = .terminated) (left : r.chain = d)
    (told : r.result = .error (.machine (.fedAfterHalt s))) : c.Closes signal r .refusal := by
  have counted := reaches.feeds fresh
  obtain ⟨size, -⟩ := reaches.kept
  have turn : d.machine (d.feeds % c.size) = d.machine turns.length := by
    rw [counted, ← size]
    exact machine_congr (Nat.mod_mod _ _)
  subst left
  refine .refusal reaches going ?_ ?_ rfl counted ?_ told
  · rw [turn]
    exact halted
  · -- The last machine has not halted, as the chain goes on.
    intro last_turn
    have alive := (finished_eq_false_iff.mp going).1
    rw [last, size, ← last_turn, turn] at alive
    exact alive halted
  · intro j
    exact (reaches.idle j).unbroken

private theorem closes_of_turn {allowance : Nat} {q r : Response Int} {e : Failure}
    (fresh : c.feeds = 0)
    (reaches : c.Reaches signal turns d s) (going : d.finished turns.length = false)
    (taken : d.turn allowance turns.length s = some q) (failed : q.result = .error e)
    (told : r.result = .error e) (left : r.chain = q.chain) : ∃ e, c.Closes signal r e := by
  have counted := reaches.feeds fresh
  obtain ⟨p, fed, ⟨f, broken, failed', left'⟩ | ⟨state, answer, -, -, answered, -⟩ |
    ⟨state, new, returned, outputs, miscounted, failed', left'⟩⟩ := turn_cases taken
  · cases failed.symm.trans failed'
    rw [left'] at left
    rcases Machine.fault_of_feed fed broken with kept | ⟨halted, rfl, same⟩
    · refine ⟨.fault, .broken reaches going fed broken left ?_ ?_ told⟩
      · rw [left, machine_replace_self]
        exact kept
      · rw [left]
        exact counted
    · rw [same, replace_machine] at left
      exact ⟨.refusal, refusal_of_halted fresh reaches going halted left told⟩
  · cases failed.symm.trans answered
  · cases failed.symm.trans failed'
    rw [left'] at left
    have feeds : r.chain.feeds = turns.length := by
      rw [left]
      exact counted
    refine ⟨.miscount, .miscount reaches going fed returned outputs miscounted left feeds ?_⟩
    rw [told, feeds, reaches.kept.1]

/-- A run of a new chain ends in one of the five ways. -/
theorem closes_of_run {allowance : Nat} {r : Response Int} (fresh : c.feeds = 0)
    (ran : c.run allowance signal = some r) : ∃ e, c.Closes signal r e := by
  rcases run_cases ran with ⟨-, unfed, j, inside, q, f, ran', failed, told, left⟩ |
    ⟨settled, turns, d, s, settles, flow, ⟨done, seen, rfl⟩ |
      ⟨going, q, e, taken, failed, told, left⟩⟩
  · have kept := Machine.fault_of_run ran' failed
    exact ⟨.fault, .unsettled inside ran' failed left (left ▸ kept) (unfed.trans fresh) told⟩
  · by_cases none : turns = []
    · subst none
      exact ⟨.silence, silence_of_finished fresh ⟨settled, settles, flow⟩ done seen⟩
    · exact ⟨.signal, signal_of_finished fresh ⟨settled, settles, flow⟩ none done seen⟩
  · exact closes_of_turn fresh ⟨settled, settles, flow⟩ going taken failed told left

/-- Only mute chains end without anything being fed, and they always do. -/
theorem silence_iff {allowance : Nat} {r : Response Int} (fresh : c.feeds = 0)
    (ran : c.run allowance signal = some r) : c.Closes signal r .silence ↔ c.Mute := by
  have inside : c.size - 1 < c.size := Nat.sub_one_lt_of_lt c.nonempty
  constructor
  · intro closes
    cases closes with
    | silence _ _ settled halted =>
      exact ⟨fun j hj ↦ ⟨_, settled j hj⟩, _, settled (c.size - 1) inside, halted⟩
  · intro mute
    -- A machine has one way to end a run, so the runs supposed here are those that settled it.
    rcases run_cases ran with ⟨-, -, j, hj, q, f, ran', failed, -, -⟩ |
      ⟨settled, turns, d, s, settles, flow, ends⟩
    · obtain ⟨m, runs⟩ := mute.1 j hj
      exact absurd failed (runs.ne_error ran')
    · have done := mute.finished settles
      obtain ⟨rfl, rfl⟩ := flow.of_finished done
      rcases ends with ⟨-, seen, rfl⟩ | ⟨going, -⟩
      · exact silence_of_finished fresh ⟨_, settles, flow⟩ done seen
      · cases done.symm.trans going

end

/-! ### New chains -/

/-- Every program text that parses and every list of phases give a chain. If its first run stops, it
ends in just one of the five ways; it ends without anything being fed just if the chain is mute, and
then it does stop. -/
theorem first_run_closes_one_way {program : String} {cells phases : List Int}
    (parsed : Program.parse program = .ok cells) (some_phases : phases ≠ []) (feedback : Bool) :
    ∃ c, ofText program phases feedback = .ok c ∧ c.size = phases.length ∧
      c.feedback = feedback ∧
      (∀ j p, phases[j]? = some p → Machine.ofText program [p] false = .ok (c.machine j)) ∧
      (∀ allowance signal r, c.run allowance signal = some r →
        r.chain.size = c.size ∧ (∃! e, c.Closes signal r e) ∧
          (c.Closes signal r .silence ↔ c.Mute)) ∧
      (c.Mute → ∀ signal, ∃ allowance r, c.run allowance signal = some r) := by
  refine ⟨ofCells cells phases feedback some_phases, ?_, ?_, rfl, ?_, ?_, Mute.stops⟩
  · rw [ofText, dif_neg some_phases, parsed]
  · simp [size, ofCells]
  · intro j p phase
    rw [Machine.ofText, parsed, machine_ofCells some_phases phase]
    rfl
  · intro allowance signal r ran
    obtain ⟨e, closes⟩ := closes_of_run rfl ran
    refine ⟨size_of_run ran, ⟨e, closes, ?_⟩, silence_iff rfl ran⟩
    intro e' closes'
    exact closes'.ending.symm.trans closes.ending

/-- Of two machines the first passes one signal on and halts, and the second one does not: the
signal that comes back is refused. -/
theorem first_run_closes_one_way_refused :
    ∃ c r, ofText "3,12,3,13,4,13,1005,12,2,99,0,0,0,0" [0, 1] true = .ok c ∧
      c.run 9 5 = some r ∧ c.Closes 5 r .refusal ∧ ∀ e, c.Closes 5 r e → e = .refusal := by
  have parsed : Program.parse "3,12,3,13,4,13,1005,12,2,99,0,0,0,0" =
      .ok [3, 12, 3, 13, 4, 13, 1005, 12, 2, 99, 0, 0, 0, 0] := rfl
  have some_phases : ([0, 1] : List Int) ≠ [] := by decide
  obtain ⟨c, built, -, -, -, one_way, -⟩ := first_run_closes_one_way parsed some_phases true
  have same : c = ofCells [3, 12, 3, 13, 4, 13, 1005, 12, 2, 99, 0, 0, 0, 0] [0, 1] true
      (by decide) := (Except.ok.inj built).symm
  have tells : (c.run 9 5).map (·.ending) = some .refusal := by
    rw [same]
    decide +kernel
  obtain ⟨r, ran, ending⟩ := Option.map_eq_some_iff.mp tells
  obtain ⟨-, ⟨e, closes, only⟩, -⟩ := one_way 9 5 r ran
  cases closes.ending.symm.trans ending
  exact ⟨c, r, built, ran, closes, only⟩

end DecimalMachine.Chain
