import DecimalMachine.Proofs.Listing.Tiling
import DecimalMachine.Proofs.Machine.Plan

/-!
# The listing and the trace

A machine that notes its instructions reads a cell as a listing does. Where the listing has an
instruction, a step notes the line of it without the column of the cells, and does so before anything
can go wrong with the instruction. Where the listing has data, a step notes nothing, and meets the
fault of what the data lack: an operation, or operands.
-/

namespace DecimalMachine

open Text

namespace Line

/-- What a line begins with: its address. -/
def front (l : Line) : String := zeroPadded 4 l.address ++ ": "

/-- The cells of a line, filled up to the width of their column, with the space behind it. -/
def column (l : Line) : String := rightPadded columnWidth.toNat l.cellsText ++ " "

/-- The mnemonic and the operands in a line. -/
def assembly (l : Line) : String := strip (l.mnemonic ++ " " ++ l.operands)

private theorem text_of_uncommented {l : Line} (h : l.comment = "") :
    l.text = l.front ++ l.column ++ l.assembly := by
  simp only [text, format, front, column, assembly, h, if_true, String.append_empty,
    String.append_assoc]

private theorem traceLine_eq (i : Instruction) :
    i.traceLine = (ofInstruction i).front ++ (ofInstruction i).assembly := rfl

variable {m : Memory} {l : Line}

private theorem Tells.decoded (tells : l.Tells m) (named : l.mnemonic ≠ "DATA") :
    ∃ i, Instruction.decode m l.address = .ok i ∧ l = ofInstruction i := by
  cases read : Instruction.decode m l.address with
  | ok i => exact ⟨i, rfl, tells.instruction i read⟩
  | error f =>
    obtain ⟨w, line, -⟩ := tells.other f read
    exact absurd (congrArg Line.mnemonic line) named

private theorem Tells.undecoded (tells : l.Tells m) (data : l.mnemonic = "DATA") :
    ∃ w f, l.cells = [w] ∧ Instruction.decode m l.address = .error f ∧
      (l.comment = "" ∧
          f = .unknownOperation (if w < 0 then w else w % 100) (some l.address) ∨
        l.comment = truncated ∧ f = .outOfBounds m.size m.size) := by
  cases read : Instruction.decode m l.address with
  | ok i =>
    have line := congrArg Line.mnemonic (tells.instruction i read)
    exact absurd (line.symm.trans data) i.operation.mnemonic_ne_data
  | error f =>
    obtain ⟨w, line, comment⟩ := tells.other f read
    have cells : l.cells = [w] := congrArg Line.cells line
    have held := tells.held
    rw [cells, Memory.holds_cons_iff] at held
    have marked := tells.marked
    rw [read] at marked
    refine ⟨w, f, cells, rfl, ?_⟩
    rcases Instruction.decode_eq_error_iff.mp read with ⟨outside, -⟩ | ⟨v, there, reason⟩
    · cases tells.inside.symm.trans outside
    · obtain rfl : w = v := Option.some.inj (held.1.symm.trans there)
      rcases reason with ⟨negative, rfl⟩ | ⟨nonneg, -, rfl⟩ | ⟨o, -, -, -, rfl⟩
      · have bare : l.comment ≠ truncated := fun h ↦ by simpa using marked.mp h
        exact .inl ⟨comment.resolve_left bare, by rw [if_pos negative]⟩
      · have bare : l.comment ≠ truncated := fun h ↦ by simpa using marked.mp h
        exact .inl ⟨comment.resolve_left bare, by rw [if_neg (Int.not_lt.mpr nonneg)]⟩
      · exact .inr ⟨marked.mpr ⟨_, _, rfl⟩, rfl⟩

end Line

namespace Machine

/-! ### What a step notes -/

private theorem trace_step_of_decoded {m : Machine} {i : Instruction} (live : m.Live)
    (inside : m.memory.contains m.pc = true)
    (decoded : Instruction.decode m.memory m.pc = .ok i) :
    m.step.machine.trace = (m.start.note i).trace := by
  have decoded' : Instruction.decode m.start.memory m.start.pc = .ok i := decoded
  simp only [step, live.1, if_neg live.2, inside, if_true, cycle, decoded']
  cases i.effect m.start.memory m.start.inputs with
  | error f => rfl
  | ok e => exact trace_apply _ _ e

private theorem step_of_undecoded {m : Machine} {f : Fault} (live : m.Live)
    (inside : m.memory.contains m.pc = true)
    (failed : Instruction.decode m.memory m.pc = .error f) :
    m.step.result = .error f ∧ m.step.machine.trace = m.trace := by
  have failed' : Instruction.decode m.start.memory m.start.pc = .error f := failed
  simp only [step, live.1, if_neg live.2, inside, if_true, cycle, failed']
  exact ⟨rfl, rfl⟩

private theorem trace_note {m : Machine} (tracing : m.tracing = true) (i : Instruction) :
    (m.note i).trace = m.trace.push i.traceLine := by
  rw [note, if_pos tracing]

/-- At the address of a line of the listing, a step of a machine that notes its instructions adds just
that line to the trace, without its cells, if the line shows an instruction; this is so whatever the
answer to the step is. If the line shows data, nothing is added, and the answer is a fault: the cell
names no operation if the line has no comment, and lacks operands if it is marked. -/
theorem step_notes_listed_line {m : Machine} {l : Line} (live : m.Live) (tracing : m.tracing = true)
    (listed : l ∈ Listing.lines m.memory) (here : m.pc = l.address) :
    (l.mnemonic ≠ "DATA" →
        l.text = l.front ++ l.column ++ l.assembly ∧
          m.step.machine.trace = m.trace.push (l.front ++ l.assembly)) ∧
      (l.mnemonic = "DATA" →
        m.step.machine.trace = m.trace ∧ ∃ w, l.cells = [w] ∧
          (l.comment = "" ∧ m.step.result =
              .error (.unknownOperation (if w < 0 then w else w % 100) (some l.address)) ∨
            l.comment = Line.truncated ∧
              m.step.result = .error (.outOfBounds m.memory.size m.memory.size))) := by
  have tells := Listing.tells_of_mem_linesFrom listed
  have inside : m.memory.contains m.pc = true := by
    rw [here]
    exact tells.inside
  constructor
  · intro named
    obtain ⟨i, decoded, rfl⟩ := tells.decoded named
    rw [← here] at decoded
    refine ⟨Line.text_of_uncommented rfl, ?_⟩
    rw [trace_step_of_decoded live inside decoded, trace_note (m := m.start) tracing,
      Line.traceLine_eq]
    rfl
  · intro data
    obtain ⟨w, f, cells, failed, reason⟩ := tells.undecoded data
    rw [← here] at failed
    obtain ⟨result, quiet⟩ := step_of_undecoded live inside failed
    refine ⟨quiet, w, cells, ?_⟩
    rw [result]
    exact reason.imp (fun ⟨bare, cause⟩ ↦ ⟨bare, congrArg Except.error cause⟩)
      fun ⟨marked, cause⟩ ↦ ⟨marked, congrArg Except.error cause⟩

/-- An addition is noted although its destination is outside; a cell below zero and a product without
its operands are not noted. -/
theorem step_notes_listed_line_each :
    (ofCells [1101, 5, -1, 99, -7, 1002, 1] [] true).step.machine.trace =
        #["0000: ADD #5, #-1 -> [99]"] ∧
      (ofCells [1101, 5, -1, 99, -7, 1002, 1] [] true).step.result = .error (.outOfBounds 99 7) ∧
      ({ ofCells [1101, 5, -1, 99, -7, 1002, 1] [] true with pc := 4 } : Machine).step.machine.trace =
        #[] ∧
      ({ ofCells [1101, 5, -1, 99, -7, 1002, 1] [] true with pc := 5 } : Machine).step.machine.trace =
        #[] := by
  have sum : Line.mk 0 [1101, 5, -1, 99] "ADD" "#5, #-1 -> [99]" "" ∈
      Listing.lines (Memory.ofList [1101, 5, -1, 99, -7, 1002, 1]) := by decide +kernel
  have below : Line.ofData 4 (-7) "" ∈
      Listing.lines (Memory.ofList [1101, 5, -1, 99, -7, 1002, 1]) := by decide +kernel
  have short : Line.ofData 5 1002 Line.truncated ∈
      Listing.lines (Memory.ofList [1101, 5, -1, 99, -7, 1002, 1]) := by decide +kernel
  obtain ⟨-, noted⟩ := (step_notes_listed_line
    (m := ofCells [1101, 5, -1, 99, -7, 1002, 1] [] true) (by decide) rfl sum rfl).1 (by decide)
  obtain ⟨silent, -⟩ := (step_notes_listed_line
    (m := { ofCells [1101, 5, -1, 99, -7, 1002, 1] [] true with pc := 4 }) (by decide) rfl below
    rfl).2 rfl
  obtain ⟨silent', -⟩ := (step_notes_listed_line
    (m := { ofCells [1101, 5, -1, 99, -7, 1002, 1] [] true with pc := 5 }) (by decide) rfl short
    rfl).2 rfl
  refine ⟨?_, by decide +kernel, silent, silent'⟩
  rw [noted]
  decide +kernel

end Machine
end DecimalMachine
