import DecimalMachine.Proofs.CommandLine.Arguments
import DecimalMachine.Proofs.CommandLine.Patches
import DecimalMachine.Proofs.Machine.Passage
import Mathlib.Data.List.TakeWhile

/-!
# Running on the command line

What the command that runs a program prints and returns. The program is read from its file, its cells
are patched, and the machine runs; all that can go wrong before it does leaves nothing printed. What the
machine put out is printed even if it meets a fault, and the cells asked for up to the first that is
none.
-/

namespace DecimalMachine.CommandLine

open Text

/-- The outcome of a failure, after what was printed before it. -/
structure Outcome.FailsWith (o : Outcome) (printed : List String) (f : Failure) : Prop where
  exitCode : o.exitCode = 1
  out : o.out = printed
  told : o.err.getLast? = some ("Error: " ++ f.message)

/-- The line that shows a cell of a memory. -/
def cellLine (m : Memory) (a : Int) : String :=
  "[" ++ decimal a ++ "] = " ++ decimal ((m.get? a).getD 0)

/-- The outcome of a machine that has stopped. In any case its outputs are printed. -/
structure Outcome.Shows (o : Outcome) (resp : Response State) (peeks : List Int) : Prop where
  /-- If it met a fault, that is all. -/
  fault : ∀ f, resp.result = .error f →
    o.FailsWith (resp.machine.outputs.toList.map decimal) (.machine f)
  /-- Otherwise cells are shown in order, up to the first address outside of the memory. -/
  outside : ∀ s a, resp.result = .ok s →
    (peeks.find? fun a ↦ !resp.machine.memory.contains a) = some a →
      o.FailsWith
        (resp.machine.outputs.toList.map decimal ++
          (peeks.takeWhile resp.machine.memory.contains).map (cellLine resp.machine.memory))
        (.machine (.outOfBounds a resp.machine.memory.size))
  /-- If there is none, all are shown, and the code says whether the machine waits. -/
  inside : ∀ s, resp.result = .ok s → (∀ a ∈ peeks, resp.machine.memory.contains a = true) →
    o.out = resp.machine.outputs.toList.map decimal ++ peeks.map (cellLine resp.machine.memory) ∧
      o.exitCode = if resp.machine.state = .waitingForInput then 3 else 0

/-! ### Before the run -/

section

variable {files : Files} {program content : String} {inputs peeks : List Int} {pokes : List String}
  {trace : Bool}

variable (file : files.read (normalPath program) = .ok content.toUTF8)

include file

private theorem machine_of_refuses {f : Failure} (refuses : Refuses content pokes f) :
    (RunRequest.full program inputs pokes peeks trace).machine files = .error f := by
  simp only [RunRequest.machine, RunRequest.full, readProgram_of_content file, bind, Except.bind]
  cases refuses with
  | patch first failed => rw [mapM_patchOf_of_failed first failed]
  | program read failed =>
    rw [mapM_patchOf_iff.mpr read]
    simp only [Machine.ofText, failed]
    rfl
  | address read parsed first =>
    rw [mapM_patchOf_iff.mpr read]
    simp only [Machine.ofText, parsed, Except.map, Except.mapError, foldlM_poke, first]

private theorem machine_of_prepares {cells : List Int} {patches : List (Int × Int)}
    (prepares : Prepares content pokes cells patches) :
    (RunRequest.full program inputs pokes peeks trace).machine files =
      .ok (Machine.ofCells (patched cells patches) inputs trace) := by
  have none_outside : patches.find? (fun p ↦ !(Memory.ofList cells).contains p.1) = none := by
    rw [List.find?_eq_none]
    intro p hp outside
    have inside : (Memory.ofList cells).contains p.1 = true := by
      rw [Memory.contains_iff, Memory.size_ofList]
      exact prepares.inside p hp
    rw [inside] at outside
    cases outside
  have all : Datum.numbers? (inputs.map .number) = some inputs := Datum.numbers?_eq_some_iff.mpr rfl
  simp only [RunRequest.machine, RunRequest.full, readProgram_of_content file, bind, Except.bind,
    mapM_patchOf_iff.mpr prepares.read, all, Option.getD_some, Machine.ofText, prepares.parsed,
    Except.map, Except.mapError, foldlM_poke, none_outside]

end

/-! ### After the run -/

section

variable {resp : Response State}

private theorem state_of_run {m : Machine} {allowance : Nat} {s : State}
    (ran : m.run allowance = some resp) (ok : resp.result = .ok s) : resp.machine.state = s := by
  obtain ⟨events, n, -, -, rfl⟩ := Machine.passes_of_run ran
  exact (Machine.step_ok ok).1

private theorem cell_ofResponse (resp : Response State) (a : Int) :
    (Ran.ofResponse resp).cell (.number a) =
      if resp.machine.memory.contains a then
        .ok (decimal ((resp.machine.memory.get? a).getD 0))
      else .error (.machine (resp.machine.memory.outside a)) := by
  have asked : (Ran.ofResponse resp).cell (.number a) =
      ((resp.machine.memory.read a).mapError .machine).map decimal := by
    show ((resp.machine.memory.read a).mapError Failure.machine >>= fun v ↦ pure (decimal v)) = _
    cases resp.machine.memory.read a with
    | error f => rfl
    | ok v => rfl
  rw [asked, Memory.read, ← Memory.isSome_get?]
  cases resp.machine.memory.get? a with
  | none => rfl
  | some v => rfl

private theorem cellLines_ofResponse (resp : Response State) (peeks : List Int) :
    (Ran.ofResponse resp).cellLines (peeks.map .number) =
      ((peeks.takeWhile resp.machine.memory.contains).map (cellLine resp.machine.memory),
        (peeks.find? fun a ↦ !resp.machine.memory.contains a).map fun a ↦
          .machine (resp.machine.memory.outside a)) := by
  induction peeks with
  | nil => rfl
  | cons a as ih =>
    rw [List.map_cons, Ran.cellLines, cell_ofResponse]
    cases inside : resp.machine.memory.contains a with
    | false =>
      rw [List.takeWhile_cons_of_neg (by simp [inside]), List.find?_cons_of_pos (by simp [inside])]
      rfl
    | true =>
      rw [List.takeWhile_cons_of_pos inside, List.find?_cons_of_neg (by simp [inside])]
      simp only [if_pos, ih]
      rfl

end

/-! ### What is reported -/

private theorem failsWith_outcome (i : Invocation) {report : Report} {f : Failure}
    (result : report.result = .error f) (prepared : f.isInternal = false) :
    (i.outcome report).FailsWith report.out f := by
  simp only [Invocation.outcome, result]
  refine ⟨?_, rfl, ?_⟩
  · simp [Failure.exitCode, prepared]
  · simp [Failure.line, prepared]

section

variable {resp : Response State}

private theorem report_of_fault (r : RunRequest) {f : Fault} (failed : resp.result = .error f) :
    (r.report (.ofResponse resp)).result = .error (.machine f) ∧
      (r.report (.ofResponse resp)).out = resp.machine.outputs.toList.map decimal := by
  have result : (Ran.ofResponse resp).result = .error (.machine f) := by
    rw [Ran.ofResponse, failed]
    rfl
  rw [RunRequest.report, result]
  exact ⟨rfl, rfl⟩

private theorem report_of_stop (program : String) (inputs : List Int) (pokes : List String)
    (peeks : List Int) (trace : Bool) {s : State} (stopped : resp.result = .ok s) :
    ((RunRequest.full program inputs pokes peeks trace).report (.ofResponse resp)).out =
        resp.machine.outputs.toList.map decimal ++
          (peeks.takeWhile resp.machine.memory.contains).map (cellLine resp.machine.memory) ∧
      ((RunRequest.full program inputs pokes peeks trace).report (.ofResponse resp)).result =
        match peeks.find? fun a ↦ !resp.machine.memory.contains a with
        | some a => .error (.machine (.outOfBounds a resp.machine.memory.size))
        | none => .ok (if s = .waitingForInput then waitingCode else 0) := by
  have result : (Ran.ofResponse resp).result = .ok s := by
    rw [Ran.ofResponse, stopped]
    rfl
  simp only [RunRequest.report, RunRequest.full, result, cellLines_ofResponse]
  cases peeks.find? fun a ↦ !resp.machine.memory.contains a with
  | some a => exact ⟨rfl, rfl⟩
  | none =>
    by_cases waiting : s = .waitingForInput
    · simp only [Option.map_none, if_pos waiting]
      exact ⟨rfl, trivial⟩
    · simp only [Option.map_none, if_neg waiting]
      exact ⟨rfl, trivial⟩

end

/-- The outcome of a program that is refused. -/
theorem execute_of_refuses {files : Files} {i : Invocation} {program content : String}
    {inputs peeks : List Int} {pokes : List String} {trace : Bool} {f : Failure}
    (command : i.command = .run (.full program inputs pokes peeks trace))
    (file : files.read (normalPath program) = .ok content.toUTF8)
    (refuses : Refuses content pokes f) (allowance : Nat) :
    ∃ o, i.execute allowance files = some o ∧ o.FailsWith [] f := by
  have executed : i.execute allowance files = some (i.outcome (.failed f)) := by
    simp only [Invocation.execute, command, Command.execute, RunRequest.execute,
      machine_of_refuses file refuses, Option.map_some]
  have prepared : f.isInternal = false := by
    cases refuses <;> rfl
  exact ⟨_, executed, failsWith_outcome i rfl prepared⟩

/-- The outcome of a program whose machine stops. -/
theorem execute_of_prepares {files : Files} {i : Invocation} {program content : String}
    {inputs peeks cells : List Int} {pokes : List String} {patches : List (Int × Int)} {trace : Bool}
    {allowance : Nat} {resp : Response State}
    (command : i.command = .run (.full program inputs pokes peeks trace))
    (file : files.read (normalPath program) = .ok content.toUTF8)
    (prepares : Prepares content pokes cells patches)
    (ran : (Machine.ofCells (patched cells patches) inputs trace).run allowance = some resp) :
    ∃ o, i.execute allowance files = some o ∧ o.Shows resp peeks := by
  have all : Datum.numbers? (inputs.map .number) = some inputs := Datum.numbers?_eq_some_iff.mpr rfl
  have same : (RunRequest.full program inputs pokes peeks trace).inputs = inputs.map .number := rfl
  have executed : i.execute allowance files = some (i.outcome
      ((RunRequest.full program inputs pokes peeks trace).report (.ofResponse resp))) := by
    simp only [Invocation.execute, command, Command.execute, RunRequest.execute,
      machine_of_prepares file prepares, RunRequest.run, same, all, ran, Option.map_some]
  refine ⟨_, executed, ?_, ?_, ?_⟩
  · intro f failed
    obtain ⟨result, out⟩ := report_of_fault (.full program inputs pokes peeks trace) failed
    rw [← out]
    exact failsWith_outcome i result rfl
  · intro s a stopped outside
    obtain ⟨out, result⟩ := report_of_stop program inputs pokes peeks trace stopped
    rw [outside] at result
    rw [← out]
    exact failsWith_outcome i result rfl
  · intro s stopped inside
    obtain ⟨out, result⟩ := report_of_stop program inputs pokes peeks trace stopped
    have none_outside : (peeks.find? fun a ↦ !resp.machine.memory.contains a) = none := by
      rw [List.find?_eq_none]
      intro a ha
      simp [inside a ha]
    rw [List.takeWhile_eq_self_iff.mpr inside] at out
    rw [none_outside] at result
    rw [state_of_run ran stopped]
    simp only [Invocation.outcome, result]
    exact ⟨out, rfl⟩

/-- Inputs, patches and addresses are given as arguments behind a program. If the program is not fit it
is not run: nothing is printed, and the first thing in the way is told. Otherwise it is run with its
cells patched in order, of which the last patch of a cell counts, and with the inputs in order; when
the machine stops the outcome shows its outputs, and the cells asked for. -/
theorem run_prints_and_returns :
    (∀ (program : String) (options : List RunOption), (∀ c cs, program.toList ≠ '-' :: c :: cs) →
        (∀ o ∈ options, o.value ≠ separatorText) →
          asked ("run" :: program :: options.map RunOption.argument) =
            .invocation ⟨0, none, .run (.full program (options.filterMap RunOption.input?)
              (options.filterMap RunOption.poke?) (options.filterMap RunOption.peek?) false)⟩) ∧
      ∀ (files : Files) (i : Invocation) (program content : String) (inputs peeks : List Int)
        (pokes : List String) (trace : Bool) (allowance : Nat),
        i.command = .run (.full program inputs pokes peeks trace) →
        files.read (normalPath program) = .ok content.toUTF8 →
          (Unfit content pokes →
            ∃ f o, Refuses content pokes f ∧ i.execute allowance files = some o ∧ o.FailsWith [] f) ∧
            (¬Unfit content pokes →
              ∃ cells patches, Prepares content pokes cells patches ∧
                (∀ a : Nat, a < cells.length →
                  (patched cells patches)[a]? = (patches.reverse.lookup (a : Int)).or cells[a]?) ∧
                ∀ resp, (Machine.ofCells (patched cells patches) inputs trace).run allowance =
                    some resp →
                  ∃ o, i.execute allowance files = some o ∧ o.Shows resp peeks) := by
  refine ⟨fun program options word plain ↦ RunOption.asked_arguments word plain, ?_⟩
  intro files i program content inputs peeks pokes trace allowance command file
  rcases refuses_or_prepares content pokes with ⟨f, refuses⟩ | ⟨cells, patches, prepares⟩
  · refine ⟨fun _ ↦ ?_, fun fit ↦ absurd refuses.unfit fit⟩
    obtain ⟨o, executed, fails⟩ := execute_of_refuses command file refuses allowance
    exact ⟨f, o, refuses, executed, fails⟩
  · refine ⟨fun unfit ↦ absurd unfit prepares.fit, fun _ ↦ ?_⟩
    refine ⟨cells, patches, prepares, fun a ↦ getElem?_patched prepares.inside, ?_⟩
    intro resp ran
    exact execute_of_prepares command file prepares ran

/-- A cell patched twice is put out and shown as the second patch says, and then an address outside of
the program is told. -/
theorem run_prints_and_returns_patched_twice :
    asked ("run" :: "p.txt" :: [.poke "1=6", .poke "1=7", .peek 1, .peek 9].map RunOption.argument) =
        .invocation ⟨0, none, .run (.full "p.txt" [] ["1=6", "1=7"] [1, 9] false)⟩ ∧
      ¬Unfit "104,5,\n99" ["1=6", "1=7"] ∧
      ∃ o, (⟨0, none, .run (.full "p.txt" [] ["1=6", "1=7"] [1, 9] false)⟩ : Invocation).execute 9
          ⟨fun _ ↦ .ok "104,5,\n99".toUTF8, fun _ ↦ none⟩ = some o ∧
        o.FailsWith ["7", "[1] = 7"] (.machine (.outOfBounds 9 3)) := by
  obtain ⟨given, runs⟩ := run_prints_and_returns
  have parsed : Program.parse (Program.filter "104,5,\n99") = .ok [104, 5, 99] := by
    decide +kernel
  have read : ["1=6", "1=7"].mapM readPatch = .ok [(1, 6), (1, 7)] := by
    decide +kernel
  have fit : ¬Unfit "104,5,\n99" ["1=6", "1=7"] :=
    Prepares.fit ⟨mapM_eq_ok_iff.mp read, parsed, by decide⟩
  refine ⟨given "p.txt" _ ?_ ?_, fit, ?_⟩
  · intro c cs same
    cases same
  · decide
  · obtain ⟨cells, patches, prepares, -, runs⟩ := (runs
      ⟨fun _ ↦ .ok "104,5,\n99".toUTF8, fun _ ↦ none⟩
      ⟨0, none, .run (.full "p.txt" [] ["1=6", "1=7"] [1, 9] false)⟩ "p.txt" "104,5,\n99" [] [1, 9]
      ["1=6", "1=7"] false 9 rfl rfl).2 fit
    obtain rfl := Except.ok.inj (parsed.symm.trans prepares.parsed)
    obtain rfl := Except.ok.inj (read.symm.trans (mapM_eq_ok_iff.mpr prepares.read))
    obtain ⟨o, executed, shows⟩ := runs _ rfl
    exact ⟨o, executed, shows.outside _ 9 rfl rfl⟩

end DecimalMachine.CommandLine
