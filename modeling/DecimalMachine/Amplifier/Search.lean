import DecimalMachine.Amplifier.Chain
import DecimalMachine.Amplifier.Orderings

/-!
# The best ordering of phases

Every ordering of the phases is tried on a new chain, and the greatest signal wins; of orderings with
the same signal the first. The first ordering that fails ends the search.
-/

namespace DecimalMachine

/-- A signal and the ordering of phases that gives it. -/
structure Best where
  signal : Int
  phases : List Int
  deriving DecidableEq, Repr

namespace Best

/-- The best so far after one more ordering, which has to give more to be preferred. From
`intcode.pipeline.find_max_signal`. -/
def improve (best : Option Best) (signal : Int) (phases : List Int) : Best :=
  match best with
  | none => ⟨signal, phases⟩
  | some b => if b.signal < signal then ⟨signal, phases⟩ else b

/-- How far a search has come: the best so far, and the events seen. -/
structure Progress where
  best : Option Best
  events : Array Chain.Event

/-- One more ordering tried on a new chain. A failure ends the search, and is kept with the events up
to it; `none` stands for a chain that did not stop within the allowance. -/
def tryOrdering (allowance : Nat) (program : String) (feedback : Bool) (signal : Int) (p : Progress)
    (phases : List Int) : Except (Option (Chain.Failure × Array Chain.Event)) Progress :=
  match amplify allowance program phases feedback signal with
  | none => .error none
  | some (.error e, events) => .error (some (e, p.events ++ events))
  | some (.ok s, events) => .ok ⟨some (improve p.best s phases), p.events ++ events⟩

/-- The best signal over all orderings of the phases. Models `intcode.pipeline.find_max_signal`;
specification 6. -/
def search (allowance : Nat) (program : String) (phases : List Int) (feedback : Bool)
    (signal : Int) : Option (Except Chain.Failure Best × Array Chain.Event) :=
  match foldOrderings (tryOrdering allowance program feedback signal) phases ⟨none, #[]⟩ with
  | .error none => none
  | .error (some (e, events)) => some (.error e, events)
  | .ok ⟨none, events⟩ => some (.error (.breach .noPhases), events)
  | .ok ⟨some b, events⟩ => some (.ok b, events.push (.found b.signal b.phases))

end Best

/-- A named setting of a search: its phases, and whether the signal is fed back. An entry of
`intcode.config.PIPELINE_PROFILES`; specification 11. -/
structure Profile where
  name : String
  phases : List Int
  feedback : Bool
  description : String
  deriving DecidableEq, Repr

namespace Profile

/-- One pass. -/
def serial : Profile where
  name := "serial"
  phases := [0, 1, 2, 3, 4]
  feedback := false
  description := "Single pass through five amplifiers"

/-- Passes until the last amplifier halts. -/
def feedbackLoop : Profile where
  name := "feedback"
  phases := [5, 6, 7, 8, 9]
  feedback := true
  description := "Amplifier ring looped until the last one halts"

/-- The profiles that can be chosen. -/
def all : List Profile := [serial, feedbackLoop]

/-- The profile taken when none is chosen. Models `intcode.config.DEFAULT_PROFILE`. -/
def usual : Profile := feedbackLoop

/-- The signal taken when none is given. Models `intcode.config.INITIAL_SIGNAL`. -/
def usualSignal : Int := 0

/-- The profile of a name. -/
def named? (name : String) : Option Profile := all.find? (·.name == name)

end Profile
end DecimalMachine
