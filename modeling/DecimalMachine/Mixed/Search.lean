import DecimalMachine.Amplifier.Search
import DecimalMachine.Mixed.Machine

/-!
# Searches for a signal that may be void

Amplifiers that get a void for a signal. Phases are numbers, so a chain is settled like any other, and
its machines are mixed from the first turn on. Signals are compared to find the greatest: a void with a
number clashes.

A signal can be void only with the releases of `argparse` before 3.11.9 and 3.12.3, where an option may be
given without the value it takes.
-/

namespace DecimalMachine.Mixed

open Text

/-- Settled amplifiers, at least one of them, that pass data along. Models
`intcode.pipeline.AmplifierPipeline`, given a void. -/
structure Ring where
  phases : List Int
  feedback : Bool
  machines : Array Mixed
  nonempty : 0 < machines.size

namespace Ring

/-- The ring of a settled chain. -/
def ofChain (console : Log.Level) (c : Chain) : Ring where
  phases := c.phases
  feedback := c.feedback
  machines := c.machines.map (ofMachine console)
  nonempty := by simpa using c.nonempty

/-- The number of machines. -/
def size (r : Ring) : Nat := r.machines.size

/-- The machine whose turn it is after so many others. -/
def machine (r : Ring) (turn : Nat) : Mixed :=
  have inside : turn % r.machines.size < r.machines.size := Nat.mod_lt turn r.nonempty
  r.machines[turn % r.machines.size]

/-- The ring with the machine of a turn replaced. -/
def replace (r : Ring) (turn : Nat) (m : Mixed) : Ring :=
  { r with
    machines := r.machines.set (turn % r.machines.size) m (Nat.mod_lt turn r.nonempty)
    nonempty := by simpa using r.nonempty }

/-- The last machine. -/
def last (r : Ring) : Mixed := r.machine (r.size - 1)

/-- Whether no further turn is taken. -/
def finished (r : Ring) (turn : Nat) : Bool :=
  r.last.state = .terminated || (!r.feedback && decide (r.size ≤ turn))

/-- The signal after so many turns, or why there is none, with the records seen so far. -/
def conclude (console : Log.Level) (r : Ring) (turns : Nat) (seen : Array Log.Record) :
    Except Trouble Datum × Array Log.Record :=
  match turns, r.last.outputs.back? with
  | 0, _ => (.error (.breach (.noSignal (r.size - 1))), seen)
  | _, none => (.error (.breach (.noSignal (r.size - 1))), seen)
  | turns, some (.number n) =>
    (.ok (.number n), seen.push (Chain.Event.settled r.phases n turns).record)
  | _, some .void =>
    (if clashes console Log.Level.debug then .error (.clash .notDecimal) else .ok .void, seen)

/-- Turns until the ring is done, at most as many as allowed. Models
`intcode.pipeline.AmplifierPipeline.run`. -/
def rounds (console : Log.Level) (allowance : Nat) :
    Nat → Nat → Ring → Datum → Array Log.Record → Option (Except Trouble Datum × Array Log.Record)
  | 0, _, _, _, _ => none
  | n + 1, i, r, signal, seen =>
    if r.finished i then some (r.conclude console i seen)
    else
      let before := (r.machine i).outputs.size
      match (r.machine i).feed allowance signal with
      | none => none
      | some fed =>
        let seen := seen ++ fed.records
        match fed.result with
        | .error t => some (.error t, seen)
        | .ok _ =>
          match fed.machine.outputs.size - before, fed.machine.outputs.back? with
          | 1, some answer =>
            rounds console allowance n (i + 1) (r.replace i fed.machine) answer seen
          | produced, _ =>
            some (.error (.breach (.outputCount produced (i % r.size))), seen)

end Ring

/-- The failure of a chain as trouble. -/
def Trouble.ofFailure : Chain.Failure → Trouble
  | .machine f => fault f
  | .breach b => breach b

/-- What a new chain gives on a signal, and the records on the way. Models
`intcode.pipeline.run_amplifiers`. -/
def amplify (console : Log.Level) (allowance : Nat) (program : String) (phases : List Int)
    (feedback : Bool) (signal : Datum) : Option (Except Trouble Datum × Array Log.Record) :=
  match Chain.ofText program phases feedback with
  | .error e => some (.error (.ofFailure e), #[])
  | .ok c =>
    match Chain.settle allowance (List.range c.size) c #[] with
    | none => none
    | some settled =>
      let records := settled.events.map Chain.Event.record
      match settled.result with
      | .error e => some (.error (.ofFailure e), records)
      | .ok () =>
        (Ring.ofChain console settled.chain).rounds console allowance allowance 0 signal records

/-- A signal and the ordering of phases that gives it. -/
structure Found where
  signal : Datum
  phases : List Int

/-- How far a search has come: the best so far, and the records seen. -/
structure Progress where
  best : Option Found
  records : Array Log.Record

/-- The best so far after one more ordering, which has to give more to be preferred. -/
def improve (best : Option Found) (signal : Datum) (phases : List Int) : Except Clash Found :=
  match best with
  | none => .ok ⟨signal, phases⟩
  | some b => (signal.exceeds b.signal).map fun more ↦ if more then ⟨signal, phases⟩ else b

/-- One more ordering tried on a new chain. -/
def tryOrdering (console : Log.Level) (allowance : Nat) (program : String) (feedback : Bool)
    (signal : Datum) (p : Progress) (phases : List Int) :
    Except (Option (Trouble × Array Log.Record)) Progress :=
  match amplify console allowance program phases feedback signal with
  | none => .error none
  | some (.error t, records) => .error (some (t, p.records ++ records))
  | some (.ok s, records) =>
    match improve p.best s phases with
    | .error c => .error (some (.clash c, p.records ++ records))
    | .ok best => .ok ⟨some best, p.records ++ records⟩

/-- The best signal over all orderings of the phases. Models `intcode.pipeline.find_max_signal`. -/
def search (console : Log.Level) (allowance : Nat) (program : String) (phases : List Int)
    (feedback : Bool) (signal : Datum) : Option (Except Trouble Found × Array Log.Record) :=
  match foldOrderings (tryOrdering console allowance program feedback signal) phases ⟨none, #[]⟩ with
  | .error none => none
  | .error (some (t, records)) => some (.error t, records)
  | .ok ⟨none, records⟩ => some (.error (.breach .noPhases), records)
  | .ok ⟨some b, records⟩ =>
    match b.signal with
    | .number n => some (.ok b, records.push (Chain.Event.found n b.phases).record)
    | .void =>
      some (if clashes console Log.Level.info then .error (.clash .notDecimal) else .ok b, records)

end DecimalMachine.Mixed
