import DecimalMachine.Proofs.Machine.Effect
import DecimalMachine.Proofs.Machine.Idle

/-!
# What holds between two calls

A machine that waits has used up its inputs, and a machine that has a fault is left running: that
holds whatever is done to it. If nobody patches its cells or moves its program counter from outside,
then it also keeps its length, its counter never goes below zero, it waits in front of an
instruction that reads, and it has halted in front of one that halts. What it has put out and noted
is never taken back.
-/

namespace DecimalMachine.Machine

/-- The instruction at the program counter decodes, and has this operation. -/
def Faces (m : Machine) (o : Operation) : Prop :=
  m.memory.contains m.pc = true ∧
    ∃ i, Instruction.decode m.memory m.pc = .ok i ∧ i.operation = o

/-- What holds of every machine between two calls. -/
structure Orderly (m : Machine) : Prop where
  /-- A machine that has a fault is left running. -/
  faulted : m.fault ≠ none → m.state = .running
  /-- A machine waits for want of inputs. -/
  starved : m.state = .waitingForInput → m.fault = none ∧ m.inputs = []
  halted : m.state = .terminated → m.fault = none

/-- What holds besides of a machine that was made from the given cells, and has not been tampered
with since. -/
structure Sound (cells : List Int) (m : Machine) : Prop extends Orderly m where
  size : m.memory.size = cells.length
  nonneg : 0 ≤ m.pc
  /-- A machine that has not started is as it was made, but for its inputs. -/
  fresh : m.state = .initialized →
    m.memory.toList = cells ∧ m.pc = 0 ∧ m.outputs.toList = [] ∧ m.fault = none
  reading : m.state = .waitingForInput → m.Faces .input
  ending : m.state = .terminated → m.Faces .halt

/-- What no call takes back. -/
structure Advances (m n : Machine) : Prop where
  outputs : m.outputs.toList <+: n.outputs.toList
  trace : m.trace.toList <+: n.trace.toList
  /-- A machine is new only once. -/
  started : m.state ≠ .initialized → n.state ≠ .initialized
  /-- A machine that has halted has halted for good. -/
  halted : m.state = .terminated → n.state = .terminated

/-! ### One step -/

private theorem Orderly.of_running {m : Machine} (h : m.state = .running) : m.Orderly where
  faulted := fun _ ↦ h
  starved := by
    rw [h]
    exact nofun
  halted := by
    rw [h]
    exact nofun

private theorem Sound.of_running {cells : List Int} {m : Machine} (h : m.state = .running)
    (size : m.memory.size = cells.length) (nonneg : 0 ≤ m.pc) : m.Sound cells where
  toOrderly := .of_running h
  size := size
  nonneg := nonneg
  fresh := by
    rw [h]
    exact nofun
  reading := by
    rw [h]
    exact nofun
  ending := by
    rw [h]
    exact nofun

private theorem orderly_of_step {m : Machine} (live : m.Live) : m.step.machine.Orderly := by
  rcases m.step_cases with ⟨dead, -⟩ | ⟨-, f, lines, -, left⟩ | ⟨-, i, e, lines, planned, left⟩
  · exact absurd live dead
  · rw [left]
    exact .of_running rfl
  · rw [left]
    have warranted := Instruction.warrants_of_effect (plan_eq_ok_iff.mp planned).2.2
    have nofault : m.fault = none := live.1
    cases e with
    | suspend =>
      exact ⟨fun broken ↦ absurd nofault broken, fun _ ↦ ⟨nofault, warranted.2⟩, nofun⟩
    | halt => exact ⟨fun broken ↦ absurd nofault broken, nofun, fun _ ↦ nofault⟩
    | _ => exact .of_running rfl

/-- A step makes a live machine sound, if only its size and its program counter are. -/
theorem sound_of_step {cells : List Int} {m : Machine} (live : m.Live)
    (size : m.memory.size = cells.length) (nonneg : 0 ≤ m.pc) : m.step.machine.Sound cells := by
  have orderly := orderly_of_step live
  rcases m.step_cases with ⟨dead, -⟩ | ⟨-, f, lines, -, left⟩ | ⟨-, i, e, lines, planned, left⟩
  · exact absurd live dead
  · rw [left]
    exact .of_running rfl size nonneg
  · rw [left] at orderly ⊢
    obtain ⟨inside, decoded, effect⟩ := plan_eq_ok_iff.mp planned
    have warranted := Instruction.warrants_of_effect effect
    have further : 0 ≤ m.pc + i.width := by omega
    -- Only a jump can take the counter back, and its target has been checked.
    cases e with
    | store a v => exact .of_running rfl (by simpa [apply, start] using size) further
    | take a v => exact .of_running rfl (by simpa [apply, start] using size) further
    | emit v => exact .of_running rfl size further
    | jump target => exact .of_running rfl size warranted.2
    | pass => exact .of_running rfl size further
    | suspend =>
      exact
        { toOrderly := orderly
          size := size
          nonneg := nonneg
          fresh := by rintro ⟨⟩
          reading := fun _ ↦ ⟨inside, i, decoded, warranted.1⟩
          ending := by rintro ⟨⟩ }
    | halt =>
      exact
        { toOrderly := orderly
          size := size
          nonneg := nonneg
          fresh := by rintro ⟨⟩
          reading := by rintro ⟨⟩
          ending := fun _ ↦ ⟨inside, i, decoded, warranted⟩ }

private theorem Advances.refl (m : Machine) : m.Advances m :=
  ⟨List.prefix_refl _, List.prefix_refl _, id, id⟩

private theorem Advances.trans {m n k : Machine} (first : m.Advances n) (second : n.Advances k) :
    m.Advances k where
  outputs := first.outputs.trans second.outputs
  trace := first.trace.trans second.trace
  started := fun h ↦ second.started (first.started h)
  halted := fun h ↦ second.halted (first.halted h)

private theorem state_of_step {m : Machine} (live : m.Live) :
    m.step.machine.state ≠ .initialized := by
  rcases m.step_cases with ⟨dead, -⟩ | ⟨-, f, lines, -, left⟩ | ⟨-, i, e, lines, -, left⟩
  · exact absurd live dead
  · rw [left]
    exact nofun
  · rw [left, state_apply]
    cases e <;> exact nofun

/-- A step takes nothing back. -/
theorem advances_step (m : Machine) : m.Advances m.step.machine := by
  by_cases live : m.Live
  · exact ⟨(precedes_step m).outputs, trace_prefix_step m, fun _ ↦ state_of_step live,
      fun h ↦ absurd h live.2⟩
  · rw [step_of_not_live live, machine_unchanged]
    exact .refl m

/-! ### Whole runs -/

/-- A step that ends a run leaves the machine waiting or halted, unless it fails. -/
theorem stopped_cases {m : Machine} {s : State} (h : m.step.result = .ok s)
    (last : s ≠ .running) : s = .terminated ∨ s = .waitingForInput := by
  by_cases live : m.Live
  · have started := state_of_step live
    rw [(step_ok h).1] at started
    cases s with
    | initialized => exact absurd rfl started
    | running => exact absurd rfl last
    | waitingForInput => exact .inr rfl
    | terminated => exact .inl rfl
  · rw [step_of_not_live live] at h
    rcases standing_of_not_live live with ⟨-, -, hs⟩ | ⟨f, -, hs⟩
    · exact .inl (Except.ok.inj (h.symm.trans hs))
    · cases hs.symm.trans h

private theorem answer_of_run {m : Machine} {allowance : Nat} {r : Response State} {s : State}
    (ran : m.run allowance = some r) (ok : r.result = .ok s) :
    s = .terminated ∨ s = .waitingForInput := by
  obtain ⟨events, n, -, last, rfl⟩ := run_iff.mp ⟨allowance, ran⟩
  have answer : n.step.result = .ok s := ok
  exact stopped_cases answer fun running ↦ last (running ▸ answer)

private theorem sound_of_passes {cells : List Int} {m n : Machine} {events : Array Event}
    (passes : m.Passes events n) (live : m.Live) (size : m.memory.size = cells.length)
    (nonneg : 0 ≤ m.pc) : n.step.machine.Sound cells := by
  induction passes with
  | refl => exact sound_of_step live size nonneg
  | head completed _ ih =>
    have sound : Sound cells _ := sound_of_step live size nonneg
    exact ih (live_of_running completed).2 sound.size sound.nonneg

private theorem advances_of_passes {m n : Machine} {events : Array Event}
    (passes : m.Passes events n) :
    m.Advances n := by
  induction passes with
  | refl m => exact .refl m
  | head _ _ ih => exact (advances_step _).trans ih

/-! ### Single calls -/

private theorem advances_supply (m : Machine) (later : List Int) : m.Advances (m.supply later) :=
  ⟨List.prefix_refl _, List.prefix_refl _, id, id⟩

/-- A machine in order is in order after every call. -/
theorem Orderly.becomes {m n : Machine} {c : Call} (orderly : m.Orderly) (h : m.Becomes c n) :
    n.Orderly := by
  cases h with
  | stay => exact orderly
  | drive live _ passes => exact orderly_of_step (live_of_passes passes live)
  | queue live busy => exact ⟨orderly.faulted, fun waiting ↦ absurd waiting busy, orderly.halted⟩
  | patch => exact ⟨orderly.faulted, orderly.starved, orderly.halted⟩
  | move => exact ⟨orderly.faulted, orderly.starved, orderly.halted⟩

/-- A sound machine is sound after every call that does not tamper with it. -/
theorem Sound.becomes {cells : List Int} {m n : Machine} {c : Call} (sound : m.Sound cells)
    (h : m.Becomes c n) (untouched : c.tampers = false) : n.Sound cells := by
  have orderly := sound.toOrderly.becomes h
  cases h with
  | stay => exact sound
  | drive live _ passes => exact sound_of_passes passes live sound.size sound.nonneg
  | queue live busy =>
    exact
      { toOrderly := orderly
        size := sound.size
        nonneg := sound.nonneg
        fresh := sound.fresh
        reading := sound.reading
        ending := sound.ending }
  | patch => cases untouched
  | move => cases untouched

/-- No call takes anything back. -/
theorem advances_of_becomes {m n : Machine} {c : Call} (h : m.Becomes c n) : m.Advances n := by
  cases h with
  | stay => exact .refl m
  | drive _ _ passes =>
    exact (advances_supply m _).trans ((advances_of_passes passes).trans (advances_step _))
  | queue => exact advances_supply m _
  | patch => exact ⟨List.prefix_refl _, List.prefix_refl _, id, id⟩
  | move => exact ⟨List.prefix_refl _, List.prefix_refl _, id, id⟩

/-! ### Histories -/

/-- A machine in order is in order after every history. -/
theorem Orderly.history {m n : Machine} {es : List Exchange} (orderly : m.Orderly)
    (calls : History m es n) : n.Orderly := by
  induction calls with
  | nil => exact orderly
  | cons answers _ ih => exact ih (orderly.becomes (becomes_of_answers answers))

/-- A sound machine is sound after every history in which nobody tampers with it. -/
theorem Sound.history {cells : List Int} {m n : Machine} {es : List Exchange}
    (sound : m.Sound cells) (calls : History m es n)
    (untouched : ∀ e ∈ es, e.call.tampers = false) : n.Sound cells := by
  induction calls with
  | nil => exact sound
  | cons answers _ ih =>
    have next := sound.becomes (becomes_of_answers answers) (untouched _ List.mem_cons_self)
    exact ih next fun e he ↦ untouched e (List.mem_cons_of_mem _ he)

/-- A new machine is in order. -/
theorem orderly_ofCells (cells inputs : List Int) (tracing : Bool) :
    (ofCells cells inputs tracing).Orderly :=
  ⟨fun broken ↦ absurd rfl broken, nofun, nofun⟩

/-- A new machine is sound. -/
theorem sound_ofCells (cells inputs : List Int) (tracing : Bool) :
    (ofCells cells inputs tracing).Sound cells where
  toOrderly := orderly_ofCells cells inputs tracing
  size := by
    rw [← Memory.length_toList]
    exact congrArg List.length (Memory.toList_ofList cells)
  nonneg := Int.le_refl 0
  fresh := fun _ ↦ ⟨Memory.toList_ofList cells, rfl, rfl, rfl⟩
  reading := nofun
  ending := nofun

/-- A program text that gives a machine gives its cells. -/
theorem ofText_eq_ok {program : String} {inputs : List Int} {tracing : Bool} {m : Machine}
    (h : ofText program inputs tracing = .ok m) :
    ∃ cells, Program.parse program = .ok cells ∧ m = ofCells cells inputs tracing := by
  unfold ofText at h
  cases parsed : Program.parse program with
  | error f =>
    rw [parsed] at h
    cases h
  | ok cells =>
    rw [parsed] at h
    exact ⟨cells, rfl, (Except.ok.inj h).symm⟩

/-- However a machine is run, stepped, fed and looked at, it stays sound. Whatever is asked of it
next, nothing that it has put out or noted is taken back, it is not new again, and if it has halted
it stays so; and a run that does not fail ends with the machine waiting or halted. -/
theorem sound_of_history {program : String} {inputs : List Int} {tracing : Bool} {m n : Machine}
    {es : List Exchange} (built : ofText program inputs tracing = .ok m) (calls : History m es n)
    (untouched : ∀ e ∈ es, e.call.tampers = false) :
    (∃ cells, Program.parse program = .ok cells ∧ n.Sound cells) ∧
      ∀ c r, n.Answers c r →
        n.Advances r.machine ∧
          (c = .run → ∀ s, r.result = .ok (.state s) → s = .terminated ∨ s = .waitingForInput) := by
  constructor
  · obtain ⟨cells, parsed, rfl⟩ := ofText_eq_ok built
    exact ⟨cells, parsed, (sound_ofCells cells inputs tracing).history calls untouched⟩
  · intro c r answers
    refine ⟨advances_of_becomes (becomes_of_answers answers), ?_⟩
    rintro rfl s ok
    obtain ⟨allowance, q, ran, rfl⟩ := answers_run_iff.mp answers
    refine answer_of_run ran (s := s) ?_
    cases hq : q.result with
    | error f => simp [Response.map, hq, Except.map] at ok
    | ok t => simpa [Response.map, hq, Except.map] using ok

/-- A program that overwrites its own second instruction is stepped, run, polled and fed, and waits
once more. -/
theorem sound_of_history_selfmade :
    ∃ m n es,
      ofText "1101,1,2,4,99,9,1105,1,4,0" [] true = .ok m ∧ History m es n ∧
        (∀ e ∈ es, e.call.tampers = false) ∧
        es.map (·.call) = [.step, .run, .step, .peek 20, .feed 7] ∧
        n.state = .waitingForInput ∧ n.memory.toList = [1101, 1, 2, 4, 3, 9, 1105, 1, 4, 7] ∧
        ∃ cells, Program.parse "1101,1,2,4,99,9,1105,1,4,0" = .ok cells ∧ n.Sound cells := by
  have built : ofText "1101,1,2,4,99,9,1105,1,4,0" [] true =
      .ok (ofCells [1101, 1, 2, 4, 99, 9, 1105, 1, 4, 0] [] true) := rfl
  have calls : History (ofCells [1101, 1, 2, 4, 99, 9, 1105, 1, 4, 0] [] true) _ _ :=
    .cons (c := .step) ⟨0, rfl⟩ (.cons (c := .run) ⟨9, rfl⟩ (.cons (c := .step) ⟨0, rfl⟩
      (.cons (c := .peek 20) ⟨0, rfl⟩ (.cons (c := .feed 7) ⟨9, rfl⟩ (.nil _)))))
  refine ⟨_, _, _, built, calls, ?_, rfl, rfl, rfl, (sound_of_history built calls ?_).1⟩
  · simp [Call.tampers]
  · simp [Call.tampers]

end DecimalMachine.Machine
