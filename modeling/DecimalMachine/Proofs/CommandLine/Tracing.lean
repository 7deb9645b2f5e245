import DecimalMachine.CommandLine.Commands
import DecimalMachine.Proofs.CommandLine.Insertion
import DecimalMachine.Proofs.Machine.Tracing
import DecimalMachine.Proofs.Mixed.Tracing

/-!
# Tracing on the command line

A program can be run with a trace, which is printed as an error is. What is printed otherwise, and the
exit code, are those of the same arguments without the flag for it, wherever it was put.
-/

namespace DecimalMachine.CommandLine

/-- The argument that asks for a trace. -/
def traceText : String := "--trace"

/-- The request without a trace. -/
def RunRequest.untraced (r : RunRequest) : RunRequest := { r with trace := false }

/-- The command without a trace. -/
def Command.untraced : Command → Command
  | run r => run r.untraced
  | c => c

/-- What is asked for, without a trace. -/
def Asked.untraced : Asked → Asked
  | invocation i => invocation { i with command := i.command.untraced }
  | a => a

/-- A run as far as the printed lines tell it. -/
def Ran.silent (r : Ran) : Ran := { r with trace := [], records := #[] }

/-- A report as far as the printed lines and the exit code tell it. -/
def Report.told (r : Report) : List String × Except Failure Nat := (r.out, r.result)

/-- The exit code and the printed lines that a report tells. -/
def shownOf (told : List String × Except Failure Nat) : Nat × List String :=
  match told.2 with
  | .ok code => (code, told.1)
  | .error f => (f.exitCode, told.1)

/-- The arguments ask for a command if its name comes next. -/
def Commands (before : List String) (name : String) : Prop :=
  .rest name [] ∈ mainGrammar.steps (before ++ [name])

/-- Whether a command is asked for is decided by reading the arguments. -/
instance (before : List String) (name : String) : Decidable (Commands before name) :=
  inferInstanceAs (Decidable (.rest name [] ∈ mainGrammar.steps (before ++ [name])))

/-! ### Carrying out -/

private theorem map_eq_of_parts {α β γ : Type} {o o' : Option α} {f f' : α → γ} (part : α → β)
    (g : β → γ)
    (same : o.map part = o'.map part) (hf : ∀ a, f a = g (part a))
    (hf' : ∀ a, f' a = g (part a)) : o.map f = o'.map f' := by
  have factors : f = g ∘ part := funext hf
  have factors' : f' = g ∘ part := funext hf'
  rw [factors, factors', ← Option.map_map, ← Option.map_map, same]

namespace RunRequest

private theorem foldlM_poke_bare (patches : List (Int × Int)) (m : Machine) :
    patches.foldlM (fun (m : Machine) p ↦ m.poke p.1 p.2) m.bare =
      (patches.foldlM (fun (m : Machine) p ↦ m.poke p.1 p.2) m).map Machine.bare := by
  induction patches generalizing m with
  | nil => rfl
  | cons p patches ih =>
    rw [List.foldlM_cons, List.foldlM_cons, Machine.poke_bare]
    cases m.poke p.1 p.2 with
    | error f => rfl
    | ok next => exact ih next

private theorem machine_untraced (files : Files) (r : RunRequest) :
    r.untraced.machine files = (r.machine files).map Machine.bare := by
  have program : r.untraced.program = r.program := rfl
  have pokes : r.untraced.pokes = r.pokes := rfl
  have inputs : r.untraced.inputs = r.inputs := rfl
  have trace : r.untraced.trace = false := rfl
  unfold machine
  rw [program, pokes, inputs, trace]
  simp only [bind, Except.bind]
  cases readProgram files r.program with
  | error f => rfl
  | ok text =>
    cases r.pokes.mapM patchOf with
    | error f => rfl
    | ok patches =>
      simp only [← Machine.ofText_bare text _ r.trace]
      cases Machine.ofText text ((Datum.numbers? r.inputs).getD []) r.trace with
      | error f => rfl
      | ok m =>
        show (patches.foldlM (fun (m : Machine) p ↦ m.poke p.1 p.2) m.bare).mapError _ =
          ((patches.foldlM (fun (m : Machine) p ↦ m.poke p.1 p.2) m).mapError _).map _
        rw [foldlM_poke_bare]
        cases patches.foldlM (fun (m : Machine) p ↦ m.poke p.1 p.2) m <;> rfl

private theorem run_untraced (console : Log.Level) (allowance : Nat) (r : RunRequest)
    (m : Machine) :
    (r.untraced.run console allowance m.bare).map Ran.silent =
      (r.run console allowance m).map Ran.silent := by
  have inputs : r.untraced.inputs = r.inputs := rfl
  unfold run
  rw [inputs]
  cases Datum.numbers? r.inputs with
  | some _ =>
    simp only [Machine.run_bare, Option.map_map]
    rfl
  | none =>
    rw [Option.map_map, Option.map_map]
    refine map_eq_of_parts Mixed.Response.bare (Ran.silent ∘ Ran.ofMixed) ?_ (fun _ ↦ rfl) fun _ ↦ rfl
    exact Mixed.run_bare allowance { Mixed.ofMachine console m with inputs := r.inputs }

private theorem cellLines_silent (ran : Ran) (peeks : List Datum) :
    ran.silent.cellLines peeks = ran.cellLines peeks := by
  induction peeks with
  | nil => rfl
  | cons a peeks ih =>
    have cell : ran.silent.cell a = ran.cell a := rfl
    rw [Ran.cellLines, Ran.cellLines, cell, ih]

private theorem told_report (r : RunRequest) (ran : Ran) :
    (r.untraced.report ran.silent).told = (r.report ran).told := by
  have result : ran.silent.result = ran.result := rfl
  have peeks : r.untraced.peeks = r.peeks := rfl
  unfold report
  rw [result, peeks, cellLines_silent]
  cases ran.result with
  | error f => rfl
  | ok s =>
    obtain ⟨lines, failure⟩ := ran.cellLines r.peeks
    cases failure with
    | some f => rfl
    | none =>
      simp only
      split
      · rfl
      · rfl

/-- Carrying a request out without a trace gives the same report, as far as the printed lines and the
exit code tell it. -/
theorem execute_untraced (console : Log.Level) (allowance : Nat) (files : Files) (r : RunRequest) :
    (r.untraced.execute console allowance files).map Report.told =
      (r.execute console allowance files).map Report.told := by
  unfold execute
  rw [machine_untraced]
  cases r.machine files with
  | error f => rfl
  | ok m =>
    show ((r.untraced.run console allowance m.bare).map r.untraced.report).map Report.told =
      ((r.run console allowance m).map r.report).map Report.told
    rw [Option.map_map, Option.map_map]
    exact map_eq_of_parts Ran.silent (fun ran ↦ (r.untraced.report ran).told)
      (r.run_untraced console allowance m) (fun ran ↦ (r.untraced.told_report ran).symm)
      fun ran ↦ (r.told_report ran).symm

end RunRequest

/-- A command without a trace gives the same report, as far as the printed lines and the exit code tell
it. -/
theorem Command.execute_untraced (console : Log.Level) (allowance : Nat) (files : Files)
    (c : Command) :
    (c.untraced.execute console allowance files).map Report.told =
      (c.execute console allowance files).map Report.told := by
  cases c with
  | run r => exact r.execute_untraced console allowance files
  | list r => rfl
  | amplify r => rfl

private theorem shown_outcome (i : Invocation) (r : Report) :
    (i.outcome r).shown = shownOf r.told := by
  unfold Invocation.outcome Report.told shownOf
  cases r.result <;> rfl

/-- Whatever is asked for, and wherever it is carried out, the same is shown without a trace. -/
theorem shown_untraced (allowance : Nat) (prepare : Option String → Except String Files) (a : Asked) :
    (a.untraced.outcome allowance prepare).map Outcome.shown =
      (a.outcome allowance prepare).map Outcome.shown := by
  cases a with
  | invocation i =>
    simp only [Asked.untraced, Asked.outcome]
    cases prepare i.logDirectory with
    | error line => rfl
    | ok files =>
      simp only [Invocation.execute, Option.map_map]
      exact map_eq_of_parts Report.told shownOf (i.command.execute_untraced _ allowance files)
        (fun report ↦ shown_outcome _ report) fun report ↦ shown_outcome i report
  | _ => rfl

/-! ### Asking for a trace -/

/-- What the steps of running come to, without a trace. -/
def Reading.untraced (r : Reading RunRequest) : Reading RunRequest :=
  { r with options := r.options.untraced }

private theorem RunRequest.add_untraced (o : OptionSpec) (text : Option String) (r : RunRequest) :
    r.untraced.add o text = (r.add o text).map RunRequest.untraced := by
  unfold RunRequest.add
  split
  · cases integerOf o text <;> rfl
  · split
    · rfl
    · cases integerOf o text <;> rfl

private theorem readSteps_untraced (r : Reading RunRequest) (steps : List Step) :
    (readSteps "run" (fun _ r ↦ { r with trace := true }) RunRequest.add r steps).map
        Reading.untraced =
      readSteps "run" (fun _ r ↦ r) RunRequest.add r.untraced steps := by
  induction steps generalizing r with
  | nil => rfl
  | cons step steps ih =>
    cases step with
    | flag o =>
      rw [readSteps, readSteps]
      split
      · rfl
      · exact ih _
    | value o text =>
      have added : r.untraced.options.add o text =
          (r.options.add o text).map RunRequest.untraced := r.options.add_untraced o text
      rw [readSteps, readSteps, added]
      cases r.options.add o text with
      | error c => rfl
      | ok options => exact ih _
    | word text => exact ih _
    | rest first others => exact ih _
    | extra text => exact ih _
    | wrong c => rfl

private theorem readSteps_added {steps steps' : List Step}
    (added : Added (.flag traceOption) steps steps')
    (r : Reading RunRequest) :
    readSteps "run" (fun _ r ↦ r) RunRequest.add r steps' =
      readSteps "run" (fun _ r ↦ r) RunRequest.add r steps := by
  induction added generalizing r with
  | same => rfl
  | here steps =>
    rw [readSteps, if_neg (by decide)]
  | later x _ ih =>
    cases x with
    | flag o =>
      rw [readSteps, readSteps]
      split
      · rfl
      · exact ih _
    | value o text =>
      rw [readSteps, readSteps]
      cases r.options.add o text with
      | error c => rfl
      | ok options => exact ih _
    | word text => exact ih _
    | rest first others => exact ih _
    | extra text => exact ih _
    | wrong c => rfl

private theorem readCommand_untraced (r : RunRequest) (args : List String) :
    (readCommand "run" runGrammar (fun _ r ↦ { r with trace := true }) RunRequest.add r args).map
        (fun p ↦ (p.1.untraced, p.2)) =
      readCommand "run" runGrammar (fun _ r ↦ r) RunRequest.add r.untraced args := by
  have read := readSteps_untraced ⟨r, none, []⟩ (runGrammar.steps args)
  have start : Reading.untraced ⟨r, none, []⟩ = ⟨r.untraced, none, []⟩ := rfl
  unfold readCommand
  rw [← start, ← read]
  cases readSteps "run" (fun _ r ↦ { r with trace := true }) RunRequest.add ⟨r, none, []⟩
      (runGrammar.steps args) with
  | error a => rfl
  | ok reading =>
    obtain ⟨options, word, extras⟩ := reading
    cases word <;> rfl

private theorem readCommand_added (r : RunRequest) {args args' : List String}
    (added : Added (.flag traceOption) (runGrammar.steps args) (runGrammar.steps args')) :
    readCommand "run" runGrammar (fun _ r ↦ r) RunRequest.add r args' =
      readCommand "run" runGrammar (fun _ r ↦ r) RunRequest.add r args := by
  unfold readCommand
  rw [readSteps_added added]

private theorem command_insert {a b : List String} (room : runGrammar.Room a b) :
    (command "run" (a ++ traceText :: b)).map (fun p ↦ (p.1.untraced, p.2)) =
      (command "run" (a ++ b)).map fun p ↦ (p.1.untraced, p.2) := by
  have added : Added (.flag traceOption) (runGrammar.steps (a ++ b))
      (runGrammar.steps (a ++ traceText :: b)) :=
    Grammar.steps_insert rfl rfl rfl (by decide) room
  have read (args : List String) : (command "run" args).map (fun p ↦ (p.1.untraced, p.2)) =
      (readCommand "run" runGrammar (fun _ r ↦ r) RunRequest.add ⟨"", [], [], [], false⟩ args).map
        fun p ↦ (.run { p.1 with program := p.2.1 }, p.2.2) := by
    have read := readCommand_untraced ⟨"", [], [], [], false⟩ args
    have start : RunRequest.untraced ⟨"", [], [], [], false⟩ = ⟨"", [], [], [], false⟩ := rfl
    rw [start] at read
    rw [command, if_pos rfl, ← read]
    cases readCommand "run" runGrammar (fun _ r ↦ { r with trace := true }) RunRequest.add
      ⟨"", [], [], [], false⟩ args <;> rfl
  rw [read, read, readCommand_added _ added]

private theorem askedBy_congr {x y : Step}
    (same : ∀ g, (askedBy g [x]).untraced = (askedBy g [y]).untraced) (said : List Step)
    (g : Globals) : (askedBy g (said ++ [x])).untraced = (askedBy g (said ++ [y])).untraced := by
  induction said generalizing g with
  | nil => exact same g
  | cons step said ih =>
    cases step with
    | flag o =>
      rw [List.cons_append, List.cons_append, askedBy, askedBy]
      repeat' split
      · rfl
      · rfl
      · exact ih _
      · exact ih _
    | value o text => exact ih _
    | word text => exact ih _
    | rest first others => rfl
    | extra text => exact ih _
    | wrong c => rfl

private theorem askedBy_insert {a b : List String} (room : runGrammar.Room a b) (g : Globals) :
    (askedBy g [.rest "run" (a ++ traceText :: b)]).untraced =
      (askedBy g [.rest "run" (a ++ b)]).untraced := by
  have same := command_insert room
  rw [askedBy, askedBy]
  cases with_flag : command "run" (a ++ traceText :: b) with
  | error asked =>
    cases without : command "run" (a ++ b) with
    | error asked' =>
      rw [with_flag, without] at same
      cases same
      rfl
    | ok p =>
      rw [with_flag, without] at same
      cases same
  | ok p =>
    cases without : command "run" (a ++ b) with
    | error asked =>
      rw [with_flag, without] at same
      cases same
    | ok q =>
      rw [with_flag, without] at same
      obtain ⟨command, extras⟩ := Prod.mk.inj (Except.ok.inj same)
      simp only [extras]
      split
      · simp only [Asked.untraced, command]
      · rfl

/-- One more flag for a trace asks for the same, without a trace. -/
theorem asked_insert {before a b : List String} (commands : Commands before "run")
    (room : runGrammar.Room a b) :
    (asked (before ++ "run" :: (a ++ traceText :: b))).untraced =
      (asked (before ++ "run" :: (a ++ b))).untraced := by
  have known : mainGrammar.classify traceText = .ok (.unknown traceText) := rfl
  rcases Grammar.steps_handed (g := mainGrammar) rfl rfl (by decide) commands known (by decide)
      room.ended with same | ⟨said, without, with_flag⟩
  · rw [asked, asked, same]
  · rw [asked, asked, with_flag, without]
    exact askedBy_congr (askedBy_insert room) said _

/-- Tracing only observes. A machine that notes its instructions and one that does not are made from
the same texts, and any calls on them are answered alike, with all but the trace the same after every
call. On the command line the flag for a trace changes neither the exit code nor the printed lines,
wherever it can be put behind the name of the command, and directly behind the name it always can, among
any files and whether or not the directory of the log can be made; and all arguments that hand something
on to the command are of this form. -/
theorem tracing_only_observes :
    (∀ program inputs,
      (∀ f, Machine.ofText program inputs true = .error f ↔
        Machine.ofText program inputs false = .error f) ∧
      ∀ m m', Machine.ofText program inputs true = .ok m →
        Machine.ofText program inputs false = .ok m' → m.Alike m') ∧
    (∀ before a b, Commands before "run" → a = [] ∨ runGrammar.Room a b → ∀ allowance prepare,
      ((asked (before ++ "run" :: (a ++ traceText :: b))).outcome allowance prepare).map
          Outcome.shown =
        ((asked (before ++ "run" :: (a ++ b))).outcome allowance prepare).map Outcome.shown) ∧
    ∀ args others, .rest "run" others ∈ mainGrammar.steps args →
      ∃ before, args = before ++ "run" :: others ∧ Commands before "run" := by
  refine ⟨fun program inputs ↦ ?_, fun before a b commands place allowance prepare ↦ ?_,
    fun args others handed ↦ Grammar.exists_before_of_rest rfl (by decide) handed⟩
  · exact ⟨fun f ↦ Machine.ofText_eq_error_iff, fun m m' ↦ Machine.alike_ofText⟩
  · have room : runGrammar.Room a b := by
      rcases place with rfl | room
      · exact Grammar.room_nil runGrammar b
      · exact room
    rw [← shown_untraced, asked_insert commands room, shown_untraced]

/-- A program that puts out its input does so with a trace, asked for between the input and the name of
its file. -/
theorem tracing_only_observes_echo :
    ∃ m m', Machine.ofText "3,0,4,0,99" [5] true = .ok m ∧
      Machine.ofText "3,0,4,0,99" [5] false = .ok m' ∧ m.Alike m' ∧
      ((asked ["-v", "run", "-i", "5", "--trace", "p"]).outcome 9 fun _ ↦
        .ok (FileTree.toFiles ⟨[(["p"], "3,0,4,0,99".toUTF8)], []⟩)).map Outcome.shown =
          some (0, ["5"]) := by
  obtain ⟨machines, lines, -⟩ := tracing_only_observes
  refine ⟨_, _, rfl, rfl, (machines "3,0,4,0,99" [5]).2 _ _ rfl rfl, ?_⟩
  have room : runGrammar.Room ["-i", "5"] ["p"] := by
    refine ⟨by decide, ?_, fun same ↦ absurd same (by decide)⟩
    intro s last item known
    cases last
    cases (show runGrammar.classify "5" = .ok (.word "5") from rfl).symm.trans known
    exact id
  refine (lines ["-v"] ["-i", "5"] ["p"] (by decide +kernel) (.inr room) 9 _).trans ?_
  decide +kernel

end DecimalMachine.CommandLine
