import DecimalMachine.CommandLine.Commands
import DecimalMachine.Proofs.Listing.Reading

/-!
# Listings on the command line

The command that lists a program prints the listing or writes it to a file, with the end of a line behind
it in both cases. As the cells can be read off a listing, so they can off what is printed and written.
-/

namespace DecimalMachine.CommandLine

open Text

namespace ListRequest

variable {files : Files} {r : ListRequest} {content : String} {cells : List Int}

private theorem listing_of_content (file : files.read (normalPath r.program) = .ok content.toUTF8)
    (parsed : Program.parse (Program.filter content) = .ok cells) :
    r.listing files = .ok (Listing.text (Memory.ofList cells)) := by
  simp only [listing, readProgram_of_content file, bind, Except.bind, Listing.memoryOf, parsed]
  rfl

end ListRequest

/-- The cells of a program are determined by its listing, from which they can be read off. The command
prints the listing with the end of a line behind it, or writes just that to the file asked for. -/
theorem listing_is_lossless :
    (∀ c c' : List Int,
      Listing.text (Memory.ofList c) = Listing.text (Memory.ofList c') → c = c') ∧
      (∀ c : List Int, Listing.cellsIn (Listing.text (Memory.ofList c)) = c) ∧
      ∀ (allowance : Nat) (files : Files) (i : Invocation) (r : ListRequest) (content : String)
        (cells : List Int), i.command = .list r →
        files.read (normalPath r.program) = .ok content.toUTF8 →
        Program.parse (Program.filter content) = .ok cells →
          (r.output = none ∨ r.output = some "" →
            ∃ o, i.execute allowance files = some o ∧ o.exitCode = 0 ∧ o.written = none ∧
              linesText o.out = Listing.text (Memory.ofList cells) ++ "\n") ∧
            ∀ path, r.output = some path → path ≠ "" → files.refusal path = none →
              ∃ o, i.execute allowance files = some o ∧ o.exitCode = 0 ∧
                o.written = some (path, Listing.text (Memory.ofList cells) ++ "\n") := by
  have read (c : List Int) : Listing.cellsIn (Listing.text (Memory.ofList c)) = c := by
    rw [Listing.cellsIn_text, Memory.toList_ofList]
  refine ⟨fun c c' same ↦ ?_, read, ?_⟩
  · rw [← read c, same, read c']
  · intro allowance files i r content cells command file parsed
    have listing := ListRequest.listing_of_content file parsed
    have executed : i.execute allowance files = some (i.outcome (r.execute files)) := by
      simp only [Invocation.execute, command, Command.execute, Option.map_some]
    constructor
    · intro printed
      have unnamed : r.output.filter (· ≠ "") = none := by
        rcases printed with none | empty
        · rw [none]
          rfl
        · rw [empty]
          rfl
      have report : r.execute files = .printed [Listing.text (Memory.ofList cells)] := by
        simp only [ListRequest.execute, listing, unnamed]
      refine ⟨_, executed, ?_⟩
      rw [report]
      exact ⟨rfl, rfl, linesText_singleton _⟩
    · intro path named nonempty granted
      have kept : r.output.filter (· ≠ "") = some path := by
        simp [named, nonempty]
      refine ⟨_, executed, ?_⟩
      simp only [ListRequest.execute, listing, kept, granted]
      exact ⟨rfl, rfl⟩

/-- A program whose last word lacks its operands, in a file with a line feed, is printed and written. -/
theorem listing_is_lossless_cut_short :
    Listing.text (Memory.ofList [104, 7, 1]) =
        "0000: 104 7            OUT #7" ++ "\n" ++ "0002: 1                DATA 1  ; truncated" ∧
      Listing.cellsIn (Listing.text (Memory.ofList [104, 7, 1])) = [104, 7, 1] ∧
      (∃ o, (⟨0, none, .list ⟨"p.txt", none⟩⟩ : Invocation).execute 0
          ⟨fun _ ↦ .ok "104,7,\n1\n".toUTF8, fun _ ↦ none⟩ = some o ∧ o.exitCode = 0 ∧
        o.written = none ∧ linesText o.out = Listing.text (Memory.ofList [104, 7, 1]) ++ "\n") ∧
      ∃ o, (⟨0, none, .list ⟨"p.txt", some "p.lst"⟩⟩ : Invocation).execute 0
          ⟨fun _ ↦ .ok "104,7,\n1\n".toUTF8, fun _ ↦ none⟩ = some o ∧ o.exitCode = 0 ∧
        o.written = some ("p.lst", Listing.text (Memory.ofList [104, 7, 1]) ++ "\n") := by
  obtain ⟨-, read, carried⟩ := listing_is_lossless
  have parsed : Program.parse (Program.filter "104,7,\n1\n") = .ok [104, 7, 1] := by
    decide +kernel
  refine ⟨by decide +kernel, read _, ?_, ?_⟩
  · exact (carried 0 _ _ _ "104,7,\n1\n" _ rfl rfl parsed).1 (.inl rfl)
  · exact (carried 0 _ _ _ "104,7,\n1\n" _ rfl rfl parsed).2 "p.lst" rfl (by decide) rfl

end DecimalMachine.CommandLine
