import DecimalMachine.Machine.Step

/-!
# Runs

A run goes on until the machine halts, waits for an input, or meets a fault. How many instructions
that takes is not known beforehand, so a run is given an allowance; `none` says that the allowance
was too small, and nothing else depends on it.
-/

namespace DecimalMachine.Machine

/-- A run with an allowance, after the events seen in the same call. The loop of
`intcode.machine.Machine.run`. -/
def runFrom : Nat → Machine → Array Event → Option (Response State)
  | 0, _, _ => none
  | n + 1, m, seen =>
    if m.state = .running then
      if m.memory.contains m.pc then
        let r := m.cycle
        match r.result with
        | .error f => some ⟨.error f, r.machine, seen ++ r.events⟩
        | .ok _ => runFrom n r.machine (seen ++ r.events)
      else some (m.faultWith m.ranOff seen)
    else some ⟨.ok m.state, m, seen.push (.stopped m.state m.pc)⟩

/-- Runs until the machine halts, waits or faults. Models `intcode.machine.Machine.run`;
specification 4.4. -/
def run (allowance : Nat) (m : Machine) : Option (Response State) :=
  match m.fault with
  | some f => some (m.unchanged (.error f))
  | none =>
    if m.state = .terminated then some (m.unchanged (.ok .terminated))
    else runFrom allowance m.start m.startEvents

/-- Hands a machine one more input. A machine that waits for it goes on at once; one that has halted
refuses it without being faulted by that. Models `intcode.machine.Machine.feed_input`;
specification 4.4. -/
def feed (allowance : Nat) (m : Machine) (v : Int) : Option (Response State) :=
  match m.fault with
  | some f => some (m.unchanged (.error f))
  | none =>
    if m.state = .terminated then some (m.unchanged (.error (.fedAfterHalt v)))
    else
      let fed := { m with inputs := m.inputs ++ [v] }
      if m.state = .waitingForInput then fed.run allowance
      else some (fed.unchanged (.ok m.state))

end DecimalMachine.Machine
