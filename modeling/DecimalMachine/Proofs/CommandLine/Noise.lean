import DecimalMachine.CommandLine.Commands
import DecimalMachine.Proofs.Program.Grammar

/-!
# Program text in a file with other characters

A program is written with digits, commas and minus signs, and a file may hold any other characters
between these, inside of numbers too. They are dropped and nothing else is, and what is left is read
as the cells it was written from.
-/

namespace DecimalMachine

namespace Program

open Text

/-- A character that is neither a digit nor a comma nor a minus sign. -/
def Foreign (c : Char) : Prop := ¬('0' ≤ c ∧ c ≤ '9') ∧ c ≠ ',' ∧ c ≠ '-'

/-- Characters with foreign ones put in, at any places and as many as one likes. -/
inductive Noisy : List Char → List Char → Prop where
  | nil : Noisy [] []
  | keep {cs ds : List Char} (c : Char) (behind : Noisy cs ds) : Noisy (c :: cs) (c :: ds)
  | insert {cs ds : List Char} {c : Char} (foreign : Foreign c) (behind : Noisy cs ds) :
    Noisy cs (c :: ds)

/-! ### Characters -/

private theorem mem_alphabet_iff {c : Char} : c ∈ alphabet ↔ ¬Foreign c := by
  have digit : '0' ≤ c ∧ c ≤ '9' ↔ 48 ≤ c.toNat ∧ c.toNat ≤ 57 := Iff.rfl
  simp only [alphabet, Foreign, digit, List.mem_cons, List.not_mem_nil, or_false, ← Char.toNat_inj,
    ne_eq, Char.reduceToNat]
  omega

private theorem mem_alphabet_of_mem_render {cells : List Int} {c : Char}
    (h : c ∈ (render cells).toList) :
    c ∈ alphabet := by
  rw [mem_alphabet_iff]
  rintro ⟨digit, comma, sign⟩
  rcases mem_of_mem_intercalate h with between | ⟨t, ht, inside⟩
  · rw [String.toList_singleton, List.mem_singleton] at between
    exact comma between
  · obtain ⟨n, -, rfl⟩ := List.mem_map.mp ht
    rcases isDigit_or_of_mem_decimal inside with isDigit | isSign
    · exact digit (isDigit_iff.mp isDigit)
    · exact sign isSign

/-! ### Noise -/

private theorem Noisy.filter_eq {cs ds : List Char} (noisy : Noisy cs ds)
    (clean : ∀ c ∈ cs, c ∈ alphabet) :
    ds.filter (alphabet.contains ·) = cs := by
  induction noisy with
  | nil => rfl
  | keep c _ ih =>
    obtain ⟨own, others⟩ := List.forall_mem_cons.mp clean
    rw [List.filter_cons_of_pos (List.contains_iff_mem.mpr own), ih others]
  | insert foreign _ ih =>
    have dropped := mt mem_alphabet_iff.mp (not_not_intro foreign)
    rw [List.filter_cons_of_neg (mt List.contains_iff_mem.mp dropped), ih clean]

private theorem noisy_filter (ds : List Char) : Noisy (ds.filter (alphabet.contains ·)) ds := by
  induction ds with
  | nil => exact .nil
  | cons c ds ih =>
    by_cases own : c ∈ alphabet
    · rw [List.filter_cons_of_pos (List.contains_iff_mem.mpr own)]
      exact .keep c ih
    · rw [List.filter_cons_of_neg (mt List.contains_iff_mem.mp own)]
      exact .insert (not_not.mp (mt mem_alphabet_iff.mpr own)) ih

/-- The text of a program is what is left of a text exactly if that is the same with noise. -/
theorem filter_eq_render_iff {cells : List Int} {text : String} :
    filter text = render cells ↔ Noisy (render cells).toList text.toList := by
  constructor
  · intro left
    rw [← left, filter, String.toList_ofList]
    exact noisy_filter text.toList
  · intro noisy
    rw [filter, noisy.filter_eq fun c hc ↦ mem_alphabet_of_mem_render hc, String.ofList_toList]

/-! ### Reading what is written -/

/-- The text of cells, if there are any, is read as these cells. -/
theorem parse_render_iff {cells : List Int} : parse (render cells) = .ok cells ↔ cells ≠ [] := by
  constructor
  · rintro read rfl
    cases read
  · intro nonempty
    rw [parse, render, delimiter, splitOn_joined_decimals rfl (by decide) nonempty,
      parseTokens_eq_ok_iff, List.forall₂_map_left_iff, List.forall₂_same]
    exact fun n _ ↦ token?_eq_some_iff.mp (token?_decimal n)

private theorem ne_nil_of_parse {text : String} {cells : List Int} (read : parse text = .ok cells) :
    cells ≠ [] := by
  rintro rfl
  have pieces := length_of_parseTokens read
  exact List.splitOn_ne_nil delimiter text.toList (List.length_eq_zero_iff.mp pieces)

end Program

namespace CommandLine

/-- Cells that are written to a file in their decimal text are read from it again, whatever foreign
characters are put in between. And cells that have been read from any text are read again from the
text they have themselves. -/
theorem program_survives_noise :
    (∀ (cells : List Int) (text path : String) (files : Files), cells ≠ [] →
      Program.Noisy (Program.render cells).toList text.toList →
      files.read (normalPath path) = .ok text.toUTF8 →
      ∃ program, readProgram files path = .ok program ∧ Program.parse program = .ok cells) ∧
      ∀ text cells, Program.parse text = .ok cells →
        Program.parse (Program.render cells) = .ok cells := by
  refine ⟨fun cells text path files nonempty noisy file ↦ ?_, fun text cells read ↦ ?_⟩
  · have left := Program.filter_eq_render_iff.mpr noisy
    have program := readProgram_of_content file
    rw [left] at program
    exact ⟨_, program, Program.parse_render_iff.mpr nonempty⟩
  · exact Program.parse_render_iff.mpr (Program.ne_nil_of_parse read)

/-- A line is broken within a number, a sign is apart from its digits, and a letter stands in front. -/
theorem program_survives_noise_broken :
    Program.Noisy (Program.render [12, -3, 0]).toList "1\n2,- 3,x0\n".toList ∧
      (∃ program, readProgram ⟨fun _ ↦ .ok "1\n2,- 3,x0\n".toUTF8, fun _ ↦ none⟩ "p.txt" =
          .ok program ∧ Program.parse program = .ok [12, -3, 0]) ∧
      Program.parse "012,-3,-0" = .ok [12, -3, 0] ∧
      Program.parse (Program.render [12, -3, 0]) = .ok [12, -3, 0] := by
  have noisy : Program.Noisy (Program.render [12, -3, 0]).toList "1\n2,- 3,x0\n".toList :=
    Program.filter_eq_render_iff.mp (by decide +kernel)
  have read : Program.parse "012,-3,-0" = .ok [12, -3, 0] := by
    decide +kernel
  obtain ⟨survives, again⟩ := program_survives_noise
  exact ⟨noisy, survives _ _ _ _ (by decide) noisy rfl, read, again _ _ read⟩

end CommandLine
end DecimalMachine
