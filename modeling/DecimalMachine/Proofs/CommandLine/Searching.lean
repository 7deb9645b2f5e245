import DecimalMachine.Proofs.Amplifier.Search
import DecimalMachine.Proofs.CommandLine.Values

/-!
# Searching again

A search prints the phases it has found in the form in which phases are asked for. Asked again with
just these phases it goes through the same orderings as before, the printed one now first. No other
gives more, so that it is found again, with the same signal, however many orderings tie.
-/

namespace DecimalMachine.CommandLine

open Text

/-! ### Lists of phases as text -/

/-- Phases with commas between them are read as these phases. -/
theorem readPhases_joined (ps : List Int) :
    readPhases (",".intercalate (ps.map decimal)) = .ok ps := by
  have spread : Spread ps (ps.map fun n ↦ (decimal n).toList) := by
    induction ps with
    | nil => exact .nil
    | cons p ps ih => exact .number (.bare p) ih
  have text : ",".intercalate (ps.map decimal) =
      String.ofList ([','].intercalate (ps.map fun n ↦ (decimal n).toList)) := by
    rw [← String.toList_inj, String.toList_ofList, String.toList_intercalate, List.map_map]
    rfl
  rw [text]
  exact spread.readPhases

private theorem joined_ne_empty {ps : List Int} (nonempty : ps ≠ []) :
    ",".intercalate (ps.map decimal) ≠ "" := by
  intro none
  have read := readPhases_joined ps
  rw [none] at read
  exact nonempty (Except.ok.inj read).symm

/-! ### The command -/

namespace AmplifyRequest

/-- What a request prints if it succeeds. -/
def Shows (console : Log.Level) (files : Files) (r : AmplifyRequest) (out : List String) : Prop :=
  ∃ allowance report, r.execute console allowance files = some report ∧
    report.result = .ok 0 ∧ report.out = out

/-- The same request for phases of its own, as they are printed. -/
def withPhases (r : AmplifyRequest) (ps : List Int) : AmplifyRequest :=
  { r with phases := some (",".intercalate (ps.map decimal)) }

variable {console : Log.Level} {files : Files} {r : AmplifyRequest} {signal : Int}
  {program : String} {p : Profile} {phases : List Int}

/-- Different phases are printed differently. -/
theorem phasesLine_injective : Function.Injective phasesLine := by
  intro ps qs same
  have text := (String.append_right_inj "phases ").mp same
  have read := readPhases_joined ps
  rw [text, readPhases_joined] at read
  exact (Except.ok.inj read).symm

private theorem problem_eq_ok_iff :
    r.problem files = .ok (program, p, phases) ↔
      readProgram files r.program = .ok program ∧ r.profile = some p ∧
        r.chosenPhases p = .ok phases := by
  constructor
  · intro posed
    rw [problem] at posed
    cases read : readProgram files r.program with
    | error f =>
      rw [read] at posed
      cases posed
    | ok text =>
      cases profile : r.profile with
      | none =>
        rw [read, profile] at posed
        cases posed
      | some q =>
        cases chosen : r.chosenPhases q with
        | error f =>
          simp only [read, profile, chosen] at posed
          cases posed
        | ok ps =>
          simp only [read, profile, chosen] at posed
          cases posed
          exact ⟨rfl, rfl, chosen⟩
  · rintro ⟨read, profile, chosen⟩
    simp only [problem, read, profile, chosen]
    rfl

private theorem problem_withPhases (posed : r.problem files = .ok (program, p, phases))
    {ps : List Int}
    (nonempty : ps ≠ []) : (r.withPhases ps).problem files = .ok (program, p, ps) := by
  obtain ⟨read, profile, -⟩ := problem_eq_ok_iff.mp posed
  refine problem_eq_ok_iff.mpr ⟨read, profile, ?_⟩
  have given : (r.withPhases ps).phases.filter (· ≠ "") =
      some (",".intercalate (ps.map decimal)) := by
    simp [withPhases, Option.filter, joined_ne_empty nonempty]
  rw [chosenPhases, given]
  exact readPhases_joined ps

/-- A request with a number for its signal prints the answer of a search, if it is a signal. -/
theorem shows_iff (given : r.signal = .number signal) {out : List String} :
    r.Shows console files out ↔ ∃ program p phases b,
      r.problem files = .ok (program, p, phases) ∧
        Searches program phases p.feedback signal (.ok b) ∧
        out = [decimal b.signal, phasesLine b.phases] := by
  constructor
  · rintro ⟨allowance, shown, executed, done, rfl⟩
    rw [execute] at executed
    cases posed : r.problem files with
    | error f =>
      rw [posed] at executed
      cases executed
      cases done
    | ok problem =>
      obtain ⟨program, p, phases⟩ := problem
      simp only [posed, search, given, Option.map_map, Option.map_eq_some_iff] at executed
      obtain ⟨⟨answer | b, events⟩, found, rfl⟩ := executed
      · cases done
      · exact ⟨program, p, phases, b, rfl, ⟨allowance, events, found⟩, rfl⟩
  · rintro ⟨program, p, phases, b, posed, ⟨allowance, events, found⟩, rfl⟩
    refine ⟨allowance, report p (.ok (decimal b.signal, b.phases)) (events.map Chain.Event.record),
      ?_, rfl, rfl⟩
    simp only [execute, posed, search, given, found, Option.map_some]
    rfl

end AmplifyRequest

/-! ### Twice the same search -/

/-- The phases that a search finds are read from their text again, and a search over them gives
nothing but the same answer, whichever orderings tie. So a request for the phases that the command
prints makes it print the same again. -/
theorem search_repeats_itself :
    (∀ program phases feedback signal b, Searches program phases feedback signal (.ok b) →
      readPhases (",".intercalate (b.phases.map decimal)) = .ok b.phases ∧
        Searches program b.phases feedback signal (.ok b) ∧
        ∀ answer, Searches program b.phases feedback signal answer → answer = .ok b) ∧
      ∀ console files (r : AmplifyRequest) signal out, r.signal = .number signal →
        r.Shows console files out →
        ∃ b : Best, out = [decimal b.signal, AmplifyRequest.phasesLine b.phases] ∧
          ∀ out', (r.withPhases b.phases).Shows console files out' ↔ out' = out := by
  refine ⟨fun program phases feedback signal b found ↦ ?_, ?_⟩
  · exact ⟨readPhases_joined b.phases, found.again, fun answer other ↦ other.unique found.again⟩
  · intro console files r signal out given shows
    obtain ⟨program, p, phases, b, posed, found, rfl⟩ :=
      (AmplifyRequest.shows_iff given).mp shows
    have posed' := AmplifyRequest.problem_withPhases posed found.again.phases_ne_nil
    have given' : (r.withPhases b.phases).signal = .number signal := given
    refine ⟨b, rfl, fun out' ↦ (AmplifyRequest.shows_iff given').trans ⟨?_, ?_⟩⟩
    · rintro ⟨program', p', phases', b', again, found', rfl⟩
      cases posed'.symm.trans again
      cases found.again.unique found'
      rfl
    · rintro rfl
      exact ⟨program, p, b.phases, b, posed', found.again, rfl⟩

/-- Of two orderings that give the same, the first is found and printed, and then again. -/
theorem search_repeats_itself_tie :
    (Amplifies "3,15,3,16,1002,16,-1,16,1,15,16,15,4,15,99,0,0" [2, -1, 5] false 0 (.ok 8) ∧
      Searches "3,15,3,16,1002,16,-1,16,1,15,16,15,4,15,99,0,0" [-1, 5, 2] false 0
        (.ok ⟨8, [5, -1, 2]⟩) ∧
      Searches "3,15,3,16,1002,16,-1,16,1,15,16,15,4,15,99,0,0" [5, -1, 2] false 0
        (.ok ⟨8, [5, -1, 2]⟩)) ∧
      AmplifyRequest.Shows Log.Level.info
        ⟨fun _ ↦ .ok "3,15,3,16,1002,16,-1,16,1,15,16,15,4,15,99,0,0".toUTF8, fun _ ↦ none⟩
        ⟨"p.txt", some Profile.serial, some "5,-1,2", .number 0⟩ ["8", "phases 5,-1,2"] := by
  have ties : (amplify 8 "3,15,3,16,1002,16,-1,16,1,15,16,15,4,15,99,0,0" [2, -1, 5] false 0).bind
      (·.1.toOption) = some 8 := by decide +kernel
  have best : (Best.search 8 "3,15,3,16,1002,16,-1,16,1,15,16,15,4,15,99,0,0" [-1, 5, 2] false
      0).bind (·.1.toOption) = some ⟨8, [5, -1, 2]⟩ := by decide +kernel
  obtain ⟨⟨e | v, events⟩, tied, told⟩ := Option.bind_eq_some_iff.mp ties
  · cases told
  obtain ⟨⟨e | b, events'⟩, stopped, told'⟩ := Option.bind_eq_some_iff.mp best
  · cases told'
  cases told
  cases told'
  have found : Searches "3,15,3,16,1002,16,-1,16,1,15,16,15,4,15,99,0,0" [-1, 5, 2] false 0
      (.ok ⟨8, [5, -1, 2]⟩) := ⟨8, events', stopped⟩
  have shown : AmplifyRequest.Shows Log.Level.info
      ⟨fun _ ↦ .ok "3,15,3,16,1002,16,-1,16,1,15,16,15,4,15,99,0,0".toUTF8, fun _ ↦ none⟩
      ⟨"p.txt", some Profile.serial, some "-1,5,2", .number 0⟩ ["8", "phases 5,-1,2"] := by
    have plain : Program.filter "3,15,3,16,1002,16,-1,16,1,15,16,15,4,15,99,0,0" =
        "3,15,3,16,1002,16,-1,16,1,15,16,15,4,15,99,0,0" := by decide +kernel
    have read : readProgram
        ⟨fun _ ↦ .ok "3,15,3,16,1002,16,-1,16,1,15,16,15,4,15,99,0,0".toUTF8, fun _ ↦ none⟩ "p.txt" =
        .ok "3,15,3,16,1002,16,-1,16,1,15,16,15,4,15,99,0,0" :=
      (readProgram_of_content rfl).trans (congrArg Except.ok plain)
    exact (AmplifyRequest.shows_iff rfl).mpr ⟨_, Profile.serial, [-1, 5, 2], _,
      AmplifyRequest.problem_eq_ok_iff.mpr ⟨read, rfl, by decide +kernel⟩, found, by decide +kernel⟩
  obtain ⟨again, prints⟩ := search_repeats_itself
  refine ⟨⟨⟨8, events, tied⟩, found, (again _ _ _ _ _ found).2.1⟩, ?_⟩
  obtain ⟨b, printed, repeats⟩ := prints _ _ _ 0 _ rfl shown
  have line : AmplifyRequest.phasesLine [5, -1, 2] = AmplifyRequest.phasesLine b.phases :=
    (List.cons.inj (List.cons.inj printed).2).1
  have phases := AmplifyRequest.phasesLine_injective line
  rw [← phases] at repeats
  exact (repeats _).mpr rfl

end DecimalMachine.CommandLine
