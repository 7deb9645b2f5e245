import DecimalMachine.Proofs.Listing.Tiling
import DecimalMachine.Proofs.Program.Grammar
import DecimalMachine.Proofs.Text.Numerals

/-!
# Reading a listing back

A line of a listing shows its cells behind the address, a colon and a space, each cell before a space;
what comes next is a space more or a letter, and so no number. As nothing else in a line is the end of a
line, the cells of all lines can be read off the text. By the tiling of the lines they are the memory.
-/

namespace DecimalMachine

open Text

/-- The numbers that words denote, up to the first word that denotes none. -/
def Program.leading : List (List Char) → List Int
  | [] => []
  | w :: ws =>
    match token? w with
    | some n => n :: leading ws
    | none => []

/-- The cells in the text of a line: the numbers behind the colon and the space. -/
def Line.cellsIn (cs : List Char) : List Int :=
  Program.leading (((cs.dropWhile (· ≠ ':')).drop 2).splitOn ' ')

/-- The cells in the text of a listing. -/
def Listing.cellsIn (s : String) : List Int := (s.toList.splitOn '\n').flatMap Line.cellsIn

/-- No line ends within the text. -/
def Text.Unbroken (s : String) : Prop := '\n' ∉ s.toList

instance (s : String) : Decidable (Unbroken s) := inferInstanceAs (Decidable ('\n' ∉ s.toList))

/-! ### Words that are numbers -/

namespace Program

private theorem leading_append (ns : List Int) (ws : List (List Char)) :
    leading (ns.map (fun n ↦ (decimal n).toList) ++ ws) = ns ++ leading ws := by
  induction ns with
  | nil => rfl
  | cons n ns ih =>
    rw [List.map_cons, List.cons_append, leading, token?_decimal]
    simp only [ih, List.cons_append]

private theorem token?_cons_eq_none {c : Char} (cs : List Char) (other : c.isDigit = false)
    (unsigned : c ≠ '-') : token? (c :: cs) = none := by
  have apart (ds : List Char) : c :: cs ≠ '-' :: ds := fun same ↦ unsigned (List.cons.inj same).1
  rw [token?_of_ne_minus apart, natural?, if_neg (by simp [other]), Option.map_none]

private theorem leading_splitOn_cons {c : Char} (cs : List Char) (other : c.isDigit = false)
    (unsigned : c ≠ '-') : leading ((c :: cs).splitOn ' ') = [] := by
  rw [List.splitOn_cons_eq_if_modifyHead]
  split
  · rfl
  · cases words : cs.splitOn ' ' with
    | nil => exact absurd words (List.splitOn_ne_nil ' ' cs)
    | cons w ws =>
      rw [List.modifyHead_cons, leading, token?_cons_eq_none w other unsigned]

end Program

namespace Text

/-! ### Characters of numbers -/

private theorem isDigit_of_mem_zeroPadded {width : Nat} {n : Int} {c : Char} (nonneg : 0 ≤ n)
    (h : c ∈ (zeroPadded width n).toList) : c.isDigit = true := by
  rw [zeroPadded, if_neg (Int.not_lt.mpr nonneg)] at h
  simp only [String.toList_append, String.toList_ofList, List.mem_append, List.mem_replicate] at h
  rcases h with (none | ⟨-, rfl⟩) | digit
  · cases none
  · rfl
  · exact isDigit_of_mem_repr digit

/-- There is no colon in it then. -/
theorem colon_notMem_zeroPadded {n : Int} (nonneg : 0 ≤ n) (width : Nat) :
    ':' ∉ (zeroPadded width n).toList := by
  intro h
  cases isDigit_of_mem_zeroPadded nonneg h

/-! ### Texts without the end of a line -/

namespace Unbroken

variable {s t : String}

private theorem append (first : Unbroken s) (second : Unbroken t) : Unbroken (s ++ t) := by
  rw [Unbroken, String.toList_append, List.mem_append]
  exact not_or_intro first second

private theorem intercalate {parts : List String} (between : Unbroken s)
    (all : ∀ p ∈ parts, Unbroken p) :
    Unbroken (s.intercalate parts) := fun broken ↦
  (mem_of_mem_intercalate broken).elim between fun ⟨p, hp, inside⟩ ↦ all p hp inside

private theorem decimal (n : Int) : Unbroken (decimal n) := fun broken ↦ by
  rcases isDigit_or_of_mem_decimal broken with digit | sign
  · cases digit
  · cases sign

private theorem zeroPadded {n : Int} (nonneg : 0 ≤ n) (width : Nat) :
    Unbroken (zeroPadded width n) :=
  fun broken ↦ by cases isDigit_of_mem_zeroPadded nonneg broken

private theorem rightPadded (whole : Unbroken s) (width : Nat) : Unbroken (rightPadded width s) :=
  .append whole fun broken ↦ by
    rw [String.toList_ofList, List.mem_replicate] at broken
    cases broken.2

private theorem strip (whole : Unbroken s) : Unbroken (strip s) := fun broken ↦ by
  rw [DecimalMachine.strip, String.toList_ofList, trim, List.mem_reverse] at broken
  have kept := (List.dropWhile_sublist isBlank).mem broken
  rw [List.mem_reverse] at kept
  exact whole ((List.dropWhile_sublist isBlank).mem kept)

private theorem wrap (whole : Unbroken s) (m : Mode) : Unbroken (m.wrap s) := by
  cases m with
  | position => exact .append (.append (by decide) whole) (by decide)
  | immediate => exact .append (by decide) whole
  | unassigned d => exact .append (.append (.append (by decide) (.decimal d)) (by decide)) whole

private theorem joined (o : Operation) {parts : List String} (all : ∀ p ∈ parts, Unbroken p) :
    Unbroken (o.joined parts) := by
  unfold Operation.joined
  split
  · next destination _ last =>
    have behind := all destination (List.mem_of_getLast? last)
    have before : Unbroken (", ".intercalate parts.dropLast) :=
      .intercalate (by decide) fun p hp ↦ all p ((List.dropLast_sublist parts).mem hp)
    dsimp only
    split
    · exact .append (by decide) behind
    · exact .append (.append before (by decide)) behind
  · exact .intercalate (by decide) all

end Unbroken
end Text

/-! ### One line -/

namespace Line

variable {m : Memory} {l : Line}

/-- What a line shows behind its cells: the assembly text and the comment. -/
def remark (l : Line) : List Char :=
  (strip (l.mnemonic ++ " " ++ l.operands)).toList ++
    (if l.comment = "" then "" else "  ; " ++ l.comment).toList

private theorem toList_text (l : Line) :
    ∃ filling : Nat, l.text.toList = (zeroPadded 4 l.address).toList ++ ':' :: ' ' ::
      (l.cellsText.toList ++ ' ' :: (List.replicate filling ' ' ++ l.remark)) := by
  refine ⟨columnWidth.toNat - l.cellsText.length, ?_⟩
  have space (k : Nat) (cs : List Char) :
      List.replicate k ' ' ++ ' ' :: cs = ' ' :: (List.replicate k ' ' ++ cs) := by
    rw [← List.singleton_append, ← List.append_assoc, ← List.replicate_succ', List.replicate_succ,
      List.cons_append]
  simp only [text, format, rightPadded, remark, String.toList_append, String.toList_ofList,
    List.append_assoc]
  simp [space]

/-- A line is called like an operation, or as data. -/
theorem Tells.mnemonic_cases (tells : l.Tells m) :
    l.mnemonic = "DATA" ∨ ∃ o : Operation, l.mnemonic = o.mnemonic := by
  cases decoded : Instruction.decode m l.address with
  | ok i =>
    rw [tells.instruction i decoded]
    exact .inr ⟨i.operation, rfl⟩
  | error f =>
    obtain ⟨w, line, -⟩ := tells.other f decoded
    rw [line]
    exact .inl rfl

private theorem Tells.unbroken_operands (tells : l.Tells m) : Unbroken l.operands := by
  cases decoded : Instruction.decode m l.address with
  | ok i =>
    rw [tells.instruction i decoded]
    refine .joined i.operation fun p hp ↦ ?_
    obtain ⟨k, hk, rfl⟩ := List.mem_iff_getElem.mp hp
    simp only [Instruction.operandTexts, List.getElem_zipWith, Mode.operandText]
    exact .wrap (.decimal _) _
  | error f =>
    obtain ⟨w, line, -⟩ := tells.other f decoded
    rw [line]
    exact .decimal w

private theorem Tells.unbroken_comment (tells : l.Tells m) : Unbroken l.comment := by
  cases decoded : Instruction.decode m l.address with
  | ok i =>
    rw [tells.instruction i decoded]
    exact (by decide : Unbroken "")
  | error f =>
    obtain ⟨w, -, truncated | none⟩ := tells.other f decoded
    · rw [truncated]
      decide
    · rw [none]
      decide

/-- A line of a listing is one line. -/
theorem Tells.unbroken_text (tells : l.Tells m) : Unbroken l.text := by
  have nonneg := (Memory.contains_iff.mp tells.inside).1
  have cells : Unbroken l.cellsText := .intercalate (by decide) fun p hp ↦ by
    obtain ⟨n, -, rfl⟩ := List.mem_map.mp hp
    exact .decimal n
  have mnemonic : Unbroken l.mnemonic := by
    rcases tells.mnemonic_cases with data | ⟨o, operation⟩
    · rw [data]
      decide
    · rw [operation]
      cases o <;> decide
  have assembly : Unbroken (strip (l.mnemonic ++ " " ++ l.operands)) :=
    .strip (.append (.append mnemonic (by decide)) tells.unbroken_operands)
  have comment : Unbroken (if l.comment = "" then "" else "  ; " ++ l.comment) := by
    split
    · decide
    · exact .append (by decide) tells.unbroken_comment
  have address : Unbroken (zeroPadded 4 l.address) := .zeroPadded nonneg 4
  exact .append (.append (.append (.append (.append address (by decide)) (.rightPadded cells _))
    (by decide)) assembly) comment

private theorem trim_cons {p : Char → Bool} {c : Char} (cs : List Char) (kept : p c = false) :
    ∃ ds, trim p (c :: cs) = c :: ds := by
  rw [trim, List.dropWhile_cons_of_neg (by simp [kept]), List.reverse_cons, List.dropWhile_append]
  split
  · exact ⟨[], by simp [kept]⟩
  · exact ⟨((cs.reverse.dropWhile p)).reverse, by simp⟩

private theorem Tells.remark_cons (tells : l.Tells m) :
    ∃ c cs, l.remark = c :: cs ∧ c.isDigit = false ∧ c ≠ '-' := by
  have letter : ∃ c cs, l.mnemonic.toList = c :: cs ∧ isBlank c = false ∧ c.isDigit = false ∧
      c ≠ '-' := by
    rcases tells.mnemonic_cases with data | ⟨o, operation⟩
    · rw [data]
      exact ⟨_, _, rfl, by decide, by decide, by decide⟩
    · rw [operation]
      cases o <;> exact ⟨_, _, rfl, by decide, by decide, by decide⟩
  obtain ⟨c, cs, name, visible, other, unsigned⟩ := letter
  obtain ⟨ds, kept⟩ := trim_cons (cs ++ ' ' :: l.operands.toList) visible
  refine ⟨c, ds ++ (if l.comment = "" then "" else "  ; " ++ l.comment).toList, ?_, other, unsigned⟩
  have assembly : (l.mnemonic ++ " " ++ l.operands).toList = c :: (cs ++ ' ' :: l.operands.toList) := by
    simp [String.toList_append, name]
  rw [remark, strip, String.toList_ofList, assembly, kept, List.cons_append]

/-- The cells of a line of a listing can be read off its text. -/
theorem Tells.cellsIn_text (tells : l.Tells m) : cellsIn l.text.toList = l.cells := by
  have nonneg := (Memory.contains_iff.mp tells.inside).1
  obtain ⟨filling, text⟩ := l.toList_text
  obtain ⟨c, cs, remark, other, unsigned⟩ := tells.remark_cons
  have some_cell : l.cells ≠ [] := by
    intro none
    have := tells.width.1
    rw [Line.width, none] at this
    cases this
  have words : l.cellsText.toList.splitOn ' ' = l.cells.map fun n ↦ (decimal n).toList :=
    splitOn_joined_decimals rfl (by decide) some_cell
  -- Cells that are too wide for their column leave no filling, and the remark comes at once.
  have behind : Program.leading ((List.replicate filling ' ' ++ l.remark).splitOn ' ') = [] := by
    cases filling with
    | zero =>
      rw [List.replicate_zero, List.nil_append, remark]
      exact Program.leading_splitOn_cons cs other unsigned
    | succ k =>
      rw [List.replicate_succ, List.cons_append]
      exact Program.leading_splitOn_cons _ (by decide) (by decide)
  rw [cellsIn, text, dropWhile_ne_append (colon_notMem_zeroPadded nonneg 4), List.drop_succ_cons,
    List.drop_succ_cons, List.drop_zero, List.splitOn_append_cons_self, words,
    Program.leading_append, behind, List.append_nil]

end Line

/-! ### The whole listing -/

namespace Listing

/-- The cells of a memory can be read off its listing. -/
theorem cellsIn_text (m : Memory) : cellsIn (text m) = m.toList := by
  have shown : (lines m).flatMap (fun l ↦ Line.cellsIn l.text.toList) = m.toList := by
    have tiled := flatMap_cells_linesFrom m 0
    rw [List.drop_zero] at tiled
    rw [← tiled]
    exact List.flatMap_congr fun l hl ↦ (tells_of_mem_linesFrom hl).cellsIn_text
  have joined : (text m).toList = ['\n'].intercalate ((lines m).map fun l ↦ l.text.toList) := by
    rw [text, String.toList_intercalate, List.map_map]
    rfl
  rw [cellsIn, joined]
  cases all : lines m with
  | nil =>
    -- No lines at all are still read as one, which is empty.
    rw [all] at shown
    exact shown
  | cons l ls =>
    rw [← all, List.splitOn_intercalate, List.flatMap_map, shown]
    · intro t ht
      obtain ⟨l, hl, rfl⟩ := List.mem_map.mp ht
      exact (tells_of_mem_linesFrom hl).unbroken_text
    · simp [all]

end Listing
end DecimalMachine
