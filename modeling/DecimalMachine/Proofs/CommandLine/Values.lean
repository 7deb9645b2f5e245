import DecimalMachine.Proofs.CommandLine.Patches
import DecimalMachine.Proofs.Text.Integers
import Mathlib.Data.List.TakeWhile

/-!
# Values read back

What is written as the value of an option is read back: a list of integers with commas between them, and
an address with its value behind an equals sign. White space may be put around every number, and blank
pieces between the commas. A text that is no address with a value is refused: it has no equals sign, or
what stands in front of the first one is no integer, or what stands behind it.
-/

namespace DecimalMachine.CommandLine

open Text

/-- The space, and the controls from tab to carriage return. -/
def spaces : List Char := [' ', '\t', '\n', '\r', '\x0b', '\x0c']

/-- A number is written as its decimal text, with white space around it. -/
def Written (n : Int) (cs : List Char) : Prop :=
  ∃ left right, left ⊆ spaces ∧ right ⊆ spaces ∧ cs = left ++ ((decimal n).toList ++ right)

/-- Numbers are written in pieces, one in each, in order. The other pieces are blank, or empty. -/
inductive Spread : List Int → List (List Char) → Prop
  | nil : Spread [] []
  | number {n : Int} {ns : List Int} {piece : List Char} {pieces : List (List Char)}
      (written : Written n piece) (rest : Spread ns pieces) : Spread (n :: ns) (piece :: pieces)
  | blank {ns : List Int} {piece : List Char} {pieces : List (List Char)}
      (blank : ∀ c ∈ piece, isBlank c = true) (rest : Spread ns pieces) :
      Spread ns (piece :: pieces)

/-- Why a text is no address with a value. -/
inductive NoPatch (s : String) : ValueFault → Prop
  | sign (missing : '=' ∉ s.toList) : NoPatch s (.noEquals s)
  | address {left right : List Char} (parts : s.toList = left ++ '=' :: right)
      (first : '=' ∉ left) (bad : ∀ a, ¬IntegerText left a) :
      NoPatch s (.notAnInteger ⟨String.ofList left⟩)
  | value {left right : List Char} {a : Int} (parts : s.toList = left ++ '=' :: right)
      (first : '=' ∉ left) (good : IntegerText left a) (bad : ∀ v, ¬IntegerText right v) :
      NoPatch s (.notAnInteger ⟨String.ofList right⟩)

/-! ### Numbers in white space -/

private theorem isPadding_of_mem_spaces {c : Char} (h : c ∈ spaces) : isPadding c = true := by
  have all : spaces.all isPadding = true := by decide
  exact List.all_eq_true.mp all c h

/-- A number may be written with nothing around it. -/
theorem Written.bare (n : Int) : Written n (decimal n).toList :=
  ⟨[], [], List.nil_subset _, List.nil_subset _, (List.append_nil _).symm⟩

private theorem Written.text {n : Int} {cs : List Char} (written : Written n cs) :
    IntegerText cs n := by
  obtain ⟨left, right, before, behind, rfl⟩ := written
  apply (integerText_decimal n).pad
  · intro c h
    exact isPadding_of_mem_spaces (before h)
  · intro c h
    exact isPadding_of_mem_spaces (behind h)

/-- The texts of an integer are read as part of a value. -/
theorem integer_eq_ok_iff {cs : List Char} {n : Int} : integer cs = .ok n ↔ IntegerText cs n := by
  rw [← integer?_iff_text, integer, readInteger, String.toList_ofList]
  cases integer? cs with
  | none => exact ⟨nofun, nofun⟩
  | some m => simp [Except.mapError]

private theorem integer_of_bad {cs : List Char} (bad : ∀ n, ¬IntegerText cs n) :
    integer cs = .error (.notAnInteger ⟨String.ofList cs⟩) := by
  have unread : integer? cs = none := by
    rw [Option.eq_none_iff_forall_ne_some]
    intro n read
    exact bad n (integer?_iff_text.mp read)
  have refused : readInteger (String.ofList cs) = .error ⟨String.ofList cs⟩ := by
    rw [readInteger_eq_error_iff, String.toList_ofList]
    exact ⟨unread, rfl⟩
  rw [integer, refused]
  rfl

/-! ### Lists -/

private theorem Spread.whole {ns : List Int} {pieces : List (List Char)}
    (spread : Spread ns pieces) :
    ∀ piece ∈ pieces, ',' ∉ piece := by
  induction spread with
  | nil => exact List.forall_mem_nil _
  | number written _ ih =>
    rw [List.forall_mem_cons]
    exact ⟨written.text.notMem (by decide) (by decide) (by decide), ih⟩
  | blank blank _ ih =>
    rw [List.forall_mem_cons]
    refine ⟨?_, ih⟩
    intro h
    have visible : isBlank ',' = false := by decide
    exact Bool.eq_false_iff.mp visible (blank ',' h)

private theorem Spread.read {ns : List Int} {pieces : List (List Char)}
    (spread : Spread ns pieces) :
    (pieces.filter fun piece ↦ trim isBlank piece ≠ []).mapM integer = .ok ns := by
  rw [mapM_eq_ok_iff]
  induction spread with
  | nil => exact .nil
  | number written _ ih =>
    rw [List.filter_cons_of_pos (by simpa using written.text.trim_ne_nil)]
    exact .cons (integer_eq_ok_iff.mpr written.text) ih
  | blank blank _ ih =>
    rw [List.filter_cons_of_neg (by simpa using trim_eq_nil_of_all blank)]
    exact ih

/-- Numbers that are spread over pieces are read from the pieces joined with commas. -/
theorem Spread.readPhases {ns : List Int} {pieces : List (List Char)} (spread : Spread ns pieces) :
    readPhases (String.ofList ([','].intercalate pieces)) = .ok ns := by
  rw [CommandLine.readPhases, String.toList_ofList]
  cases pieces with
  | nil =>
    cases spread
    rfl
  | cons piece pieces =>
    rw [List.splitOn_intercalate ',' spread.whole (List.cons_ne_nil piece pieces)]
    exact spread.read

/-! ### Addresses with values -/

variable {s : String} {left right : List Char}

private theorem readPatch_of_notMem (missing : '=' ∉ s.toList) :
    readPatch s = .error (.noEquals s) := by
  have none : s.toList.dropWhile (· ≠ '=') = [] := by
    rw [List.dropWhile_eq_nil_iff]
    intro c h
    apply decide_eq_true
    rintro rfl
    exact missing h
  simp only [readPatch, none]

private theorem readPatch_of_parts (parts : s.toList = left ++ '=' :: right) (first : '=' ∉ left) :
    readPatch s =
      match integer left with
      | .error f => .error f
      | .ok a => (integer right).map (a, ·) := by
  simp only [readPatch, parts, dropWhile_ne_append first, takeWhile_ne_append first]
  cases integer left with
  | error f => rfl
  | ok a =>
    cases integer right with
    | error f => rfl
    | ok v => rfl

private theorem readPatch_of_texts {a v : Int} (parts : s.toList = left ++ '=' :: right)
    (first : '=' ∉ left) (address : IntegerText left a) (value : IntegerText right v) :
    readPatch s = .ok (a, v) := by
  rw [readPatch_of_parts parts first, integer_eq_ok_iff.mpr address, integer_eq_ok_iff.mpr value]
  rfl

private theorem readPatch_of_noPatch {f : ValueFault} (no : NoPatch s f) :
    readPatch s = .error f := by
  cases no with
  | sign missing => exact readPatch_of_notMem missing
  | address parts first bad => rw [readPatch_of_parts parts first, integer_of_bad bad]
  | value parts first good bad =>
    rw [readPatch_of_parts parts first, integer_eq_ok_iff.mpr good, integer_of_bad bad]
    rfl

/-- A text is an address with a value, or there is a reason why it is not. -/
theorem patch_or_noPatch (s : String) :
    (∃ left right a v, s.toList = left ++ '=' :: right ∧ '=' ∉ left ∧ IntegerText left a ∧
      IntegerText right v) ∨ ∃ f, NoPatch s f := by
  by_cases there : '=' ∈ s.toList
  · obtain ⟨left, right, parts, first⟩ := List.eq_append_cons_of_mem there
    by_cases address : ∃ a, IntegerText left a
    · obtain ⟨a, good⟩ := address
      by_cases value : ∃ v, IntegerText right v
      · obtain ⟨v, fine⟩ := value
        exact .inl ⟨left, right, a, v, parts, first, good, fine⟩
      · exact .inr ⟨_, .value parts first good (not_exists.mp value)⟩
    · exact .inr ⟨_, .address parts first (not_exists.mp address)⟩
  · exact .inr ⟨_, .sign there⟩

/-- Texts are refused for these reasons only. -/
theorem readPatch_eq_error_iff {f : ValueFault} : readPatch s = .error f ↔ NoPatch s f := by
  constructor
  · intro refused
    rcases patch_or_noPatch s with ⟨left, right, a, v, parts, first, address, value⟩ | ⟨g, no⟩
    · cases refused.symm.trans (readPatch_of_texts parts first address value)
    · cases refused.symm.trans (readPatch_of_noPatch no)
      exact no
  · exact readPatch_of_noPatch

private theorem refused_of_parts (parts : s.toList = left ++ '=' :: right) (first : '=' ∉ left)
    (bad : (∀ a, ¬IntegerText left a) ∨ (∀ v, ¬IntegerText right v) ∨ '=' ∈ right) :
    ∃ f, readPatch s = .error f := by
  by_cases address : ∃ a, IntegerText left a
  · obtain ⟨a, good⟩ := address
    have value : ∀ v, ¬IntegerText right v := by
      intro v fine
      rcases bad with none | none | second
      · exact none a good
      · exact none v fine
      · exact fine.notMem (by decide) (by decide) (by decide) second
    exact ⟨_, readPatch_of_noPatch (.value parts first good value)⟩
  · exact ⟨_, readPatch_of_noPatch (.address parts first (not_exists.mp address))⟩

/-! ### All values -/

/-- Integers that are written with white space around them, between commas and among blank pieces, are
read back in order, and so are an address and a value on either side of an equals sign. A text is
refused as an address with a value for what is missing first: the equals sign, an integer in front of
the first one, or an integer behind it. -/
theorem values_read_back :
    (∀ ns pieces, Spread ns pieces →
      readPhases (String.ofList ([','].intercalate pieces)) = .ok ns) ∧
      (∀ a v left right, Written a left → Written v right →
        readPatch (String.ofList (left ++ '=' :: right)) = .ok (a, v)) ∧
        (∀ s f, readPatch s = .error f ↔ NoPatch s f) ∧
          ∀ left right, '=' ∉ left →
            (∀ a, ¬IntegerText left a) ∨ (∀ v, ¬IntegerText right v) ∨ '=' ∈ right →
              ∃ f, readPatch (String.ofList (left ++ '=' :: right)) = .error f := by
  refine ⟨?_, ?_, ?_, ?_⟩
  · intro ns pieces spread
    exact spread.readPhases
  · intro a v left right address value
    apply readPatch_of_texts String.toList_ofList _ address.text value.text
    exact address.text.notMem (by decide) (by decide) (by decide)
  · intro s f
    exact readPatch_eq_error_iff
  · intro left right first bad
    exact refused_of_parts String.toList_ofList first bad

/-- Two numbers among blank pieces, one of which is a separator that may not stand around a number; an
address with its value; and a text with two equals signs. -/
theorem values_read_back_spread :
    readPhases "\t-7 ,,\x1c,\n5" = .ok [-7, 5] ∧ readPatch " 1\r=-2" = .ok (1, -2) ∧
      ∃ f, readPatch "1=2=3" = .error f := by
  have seven : Written (-7) ['\t', '-', '7', ' '] := ⟨['\t'], [' '], by decide⟩
  have five : Written 5 ['\n', '5'] := ⟨['\n'], [], by decide⟩
  have separator : ∀ c ∈ ['\x1c'], isBlank c = true := List.forall_mem_singleton.mpr (by decide)
  have spread : Spread [-7, 5] [['\t', '-', '7', ' '], [], ['\x1c'], ['\n', '5']] :=
    .number seven (.blank (List.forall_mem_nil _) (.blank separator (.number five .nil)))
  have one : Written 1 [' ', '1', '\r'] := ⟨[' '], ['\r'], by decide⟩
  have two : Written (-2) ['-', '2'] := ⟨[], [], by decide⟩
  have list : "\t-7 ,,\x1c,\n5" =
      String.ofList ([','].intercalate [['\t', '-', '7', ' '], [], ['\x1c'], ['\n', '5']]) := rfl
  have cell : " 1\r=-2" = String.ofList ([' ', '1', '\r'] ++ '=' :: ['-', '2']) := rfl
  have twice : "1=2=3" = String.ofList (['1'] ++ '=' :: ['2', '=', '3']) := rfl
  rw [list, cell, twice]
  obtain ⟨phases, patch, -, refused⟩ := values_read_back
  refine ⟨phases _ _ spread, patch _ _ _ _ one two, ?_⟩
  apply refused
  · decide
  · exact .inr (.inr (by decide))

end DecimalMachine.CommandLine
