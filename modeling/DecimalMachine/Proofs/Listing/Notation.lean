import DecimalMachine.Machine.Step
import DecimalMachine.Proofs.Listing.Reading

/-!
# Assembly text tells instructions apart

The text of an instruction is made of words with a space between: the mnemonic, the operands, and an
arrow before the destination. No word has a space in it, so the words can be read off the text; the
mnemonic names the operation, which says what the other words are. An operand has its mode written
around its cell. So what has the same text does the same.
-/

namespace DecimalMachine

open Text

namespace Instruction

/-- The instructions do the same, wherever they stand and whatever else is in their words. -/
structure Same (i j : Instruction) : Prop where
  operation : i.operation = j.operation
  operands : i.operands = j.operands
  digits : i.modes.map Mode.digit = j.modes.map Mode.digit

end Instruction

namespace Operation

/-- Operands with a comma behind each but the last. -/
def listed : List String → List String
  | [] => []
  | [p] => [p]
  | p :: q :: ps => (p ++ ",") :: listed (q :: ps)

/-- The words of an instruction: the mnemonic and the operands, with an arrow before the destination. -/
def words (o : Operation) (parts : List String) : List String :=
  o.mnemonic ::
    if o.stores then listed parts.dropLast ++ "->" :: parts.getLast?.toList else listed parts

end Operation

namespace Text

/-- The text is not empty, and has no blank in it. -/
def Solid (s : String) : Prop := s.toList ≠ [] ∧ ∀ c ∈ s.toList, isBlank c = false

/-- Whether a text is solid is decided by going through its characters. -/
instance (s : String) : Decidable (Solid s) :=
  @instDecidableAnd _ _ inferInstance (List.decidableBAll (isBlank · = false) s.toList)

/-! ### Solid texts -/

namespace Solid

variable {s t : String}

private theorem append (first : Solid s) (second : Solid t) : Solid (s ++ t) := by
  rw [Solid, String.toList_append]
  constructor
  · intro empty
    exact first.1 (List.append_eq_nil_iff.mp empty).1
  · intro c hc
    rcases List.mem_append.mp hc with front | back
    · exact first.2 c front
    · exact second.2 c back

private theorem decimal (n : Int) : Solid (decimal n) :=
  ⟨toList_decimal_ne_nil n, fun _ hc ↦ isBlank_eq_false (isDigit_or_of_mem_decimal hc)⟩

private theorem space_notMem (solid : Solid s) : ' ' ∉ s.toList := by
  intro inside
  cases solid.2 ' ' inside

end Solid

private theorem head?_intercalate {w : List Char} (ws : List (List Char)) (nonempty : w ≠ []) :
    ([' '].intercalate (w :: ws)).head? = w.head? := by
  cases ws with
  | nil => rw [List.intercalate_singleton]
  | cons v vs =>
    rw [List.intercalate_cons_cons, List.append_assoc, List.head?_append_of_ne_nil _ nonempty]

private theorem getLast?_intercalate {ws : List String} (solid : ∀ w ∈ ws, Solid w) {c : Char}
    (last : ([' '].intercalate (ws.map String.toList)).getLast? = some c) :
    ∃ w ∈ ws, c ∈ w.toList := by
  induction ws with
  | nil => cases last
  | cons w ws ih =>
    cases ws with
    | nil =>
      rw [List.map_cons, List.map_nil, List.intercalate_singleton] at last
      exact ⟨w, List.mem_cons_self, List.mem_of_getLast? last⟩
    | cons v vs =>
      have later := fun u hu ↦ solid u (List.mem_cons_of_mem w hu)
      have visible : v.toList ≠ [] := (later v List.mem_cons_self).1
      have rest : [' '].intercalate ((v :: vs).map String.toList) ≠ [] := by
        intro empty
        have first := head?_intercalate (vs.map String.toList) visible
        rw [← List.map_cons, empty, List.head?_nil, eq_comm, List.head?_eq_none_iff] at first
        exact visible first
      rw [List.map_cons, List.map_cons, List.intercalate_cons_cons, ← List.map_cons,
        List.getLast?_append_of_ne_nil _ rest] at last
      obtain ⟨u, hu, inside⟩ := ih later last
      exact ⟨u, List.mem_cons_of_mem w hu, inside⟩

private theorem strip_intercalate {ws : List String} (solid : ∀ w ∈ ws, Solid w) :
    strip (" ".intercalate ws) = " ".intercalate ws := by
  have chars : (" ".intercalate ws).toList = [' '].intercalate (ws.map String.toList) :=
    String.toList_intercalate
  rw [strip, trim_eq_self, String.ofList_toList]
  · intro c first
    cases ws with
    | nil => cases first
    | cons w ws =>
      have here := solid w List.mem_cons_self
      rw [chars, List.map_cons, head?_intercalate _ here.1] at first
      exact here.2 c (List.mem_of_mem_head? first)
  · intro c last
    rw [chars] at last
    obtain ⟨w, hw, inside⟩ := getLast?_intercalate solid last
    exact (solid w hw).2 c inside

end Text

/-! ### Operands -/

namespace Mode

private theorem solid_operandText (v : Int) (m : Mode) : Solid (m.operandText v) := by
  cases m with
  | position => exact .append (.append (by decide) (.decimal v)) (by decide)
  | immediate => exact .append (by decide) (.decimal v)
  | unassigned d =>
    exact .append (.append (.append (by decide) (.decimal d)) (by decide)) (.decimal v)

private theorem colon_notMem_decimal (n : Int) : ':' ∉ (decimal n).toList := by
  intro inside
  rcases isDigit_or_of_mem_decimal inside with digit | sign
  · cases digit
  · cases sign

/-- The text of an operand tells its cell and its mode. -/
theorem operandText_inj {v w : Int} {m n : Mode} :
    m.operandText v = n.operandText w ↔ v = w ∧ m = n := by
  constructor
  · intro same
    have chars := congrArg String.toList same
    cases m <;> cases n <;>
      simp only [operandText, wrap, String.toList_append, List.append_assoc] at chars
    case position.position =>
      have cells : (decimal v).toList = (decimal w).toList := by simpa using chars
      exact ⟨decimal_injective (String.toList_inj.mp cells), rfl⟩
    case immediate.immediate =>
      have cells : (decimal v).toList = (decimal w).toList := by simpa using chars
      exact ⟨decimal_injective (String.toList_inj.mp cells), rfl⟩
    case unassigned.unassigned d e =>
      have around : (decimal d).toList ++ ':' :: (decimal v).toList =
          (decimal e).toList ++ ':' :: (decimal w).toList := by simpa using chars
      obtain ⟨digits, -, cells⟩ := (List.append_cons_inj_of_notMem
        (colon_notMem_decimal d) (colon_notMem_decimal v)).mp around
      rw [decimal_injective (String.toList_inj.mp cells),
        decimal_injective (String.toList_inj.mp digits)]
      exact ⟨rfl, rfl⟩
    -- The first character of the text is that of another mode.
    all_goals simp at chars
  · rintro ⟨rfl, rfl⟩
    rfl

end Mode

/-! ### Words -/

namespace Operation

/-- Operations are told apart by their mnemonics. -/
theorem mnemonic_injective : Function.Injective mnemonic := by
  intro o p same
  revert same
  cases o <;> cases p <;> decide

private theorem solid_listed {parts : List String} (solid : ∀ p ∈ parts, Solid p) :
    ∀ w ∈ listed parts, Solid w := by
  induction parts with
  | nil => exact solid
  | cons p ps ih =>
    cases ps with
    | nil => exact solid
    | cons q qs =>
      obtain ⟨first, later⟩ := List.forall_mem_cons.mp solid
      exact List.forall_mem_cons.mpr ⟨.append first (by decide), ih later⟩

private theorem solid_words {o : Operation} {parts : List String} (solid : ∀ p ∈ parts, Solid p) :
    ∀ w ∈ o.words parts, Solid w := by
  rw [words, List.forall_mem_cons]
  constructor
  · cases o <;> decide
  · split
    · rw [List.forall_mem_append, List.forall_mem_cons]
      refine ⟨?_, by decide, ?_⟩
      · exact solid_listed fun p hp ↦ solid p ((List.dropLast_sublist parts).mem hp)
      · intro p hp
        apply solid
        rw [Option.mem_toList] at hp
        exact List.mem_of_getLast? hp
    · exact solid_listed solid

private theorem joined_three {o : Operation} (stores : o.stores = true) (a b c : String) :
    o.joined [a, b, c] = a ++ ", " ++ b ++ " -> " ++ c := by
  have sources : a ++ ", " ++ b ≠ "" := by simp [String.append_eq_empty_iff]
  have pair : ", ".intercalate [a, b] = a ++ ", " ++ b := rfl
  have front : [a, b, c].dropLast = [a, b] := rfl
  have last : [a, b, c].getLast? = some c := rfl
  simp only [joined, stores, front, last, pair, if_neg sources]

private theorem line_eq_intercalate {o : Operation} {parts : List String}
    (complete : parts.length = o.arity)
    (solid : ∀ p ∈ parts, Solid p) : o.line parts = " ".intercalate (o.words parts) := by
  rw [← strip_intercalate (solid_words solid), line]
  cases o with
  | add | multiply | lessThan | equals =>
    obtain ⟨a, b, c, rfl⟩ := List.length_eq_three.mp complete
    rw [joined_three rfl]
    congr 1
    rw [← String.toList_inj]
    simp [words, stores, listed]
  | input | output =>
    obtain ⟨a, rfl⟩ := List.length_eq_one_iff.mp complete
    simp [joined, words, stores, listed]
  | jumpIfTrue | jumpIfFalse =>
    obtain ⟨a, b, rfl⟩ := List.length_eq_two.mp complete
    congr 1
    rw [← String.toList_inj]
    simp [joined, words, stores, listed]
  | halt =>
    obtain rfl := List.length_eq_zero_iff.mp complete
    decide

private theorem words_inj {o p : Operation} {parts others : List String}
    (complete : parts.length = o.arity)
    (complete' : others.length = p.arity) :
    o.words parts = p.words others ↔ o = p ∧ parts = others := by
  constructor
  · intro same
    obtain rfl := mnemonic_injective (List.cons.inj same).1
    refine ⟨rfl, ?_⟩
    cases o with
    | add | multiply | lessThan | equals =>
      obtain ⟨a, b, c, rfl⟩ := List.length_eq_three.mp complete
      obtain ⟨d, e, f, rfl⟩ := List.length_eq_three.mp complete'
      simpa [words, stores, listed] using same
    | input | output =>
      obtain ⟨a, rfl⟩ := List.length_eq_one_iff.mp complete
      obtain ⟨d, rfl⟩ := List.length_eq_one_iff.mp complete'
      simpa [words, stores, listed] using same
    | jumpIfTrue | jumpIfFalse =>
      obtain ⟨a, b, rfl⟩ := List.length_eq_two.mp complete
      obtain ⟨d, e, rfl⟩ := List.length_eq_two.mp complete'
      simpa [words, stores, listed] using same
    | halt =>
      rw [List.length_eq_zero_iff.mp complete, List.length_eq_zero_iff.mp complete']
  · rintro ⟨rfl, rfl⟩
    rfl

/-- The text of an instruction tells its operation and its operands. -/
theorem line_inj {o p : Operation} {parts others : List String} (complete : parts.length = o.arity)
    (complete' : others.length = p.arity) (solid : ∀ s ∈ parts, Solid s)
    (solid' : ∀ s ∈ others, Solid s) :
    o.line parts = p.line others ↔ o = p ∧ parts = others := by
  have apart {ws : List String} (solid : ∀ w ∈ ws, Solid w) (nonempty : ws ≠ []) :
      (" ".intercalate ws).toList.splitOn ' ' = ws.map String.toList := by
    rw [String.toList_intercalate]
    apply List.splitOn_intercalate
    · intro t ht
      obtain ⟨w, hw, rfl⟩ := List.mem_map.mp ht
      exact (solid w hw).space_notMem
    · exact mt List.map_eq_nil_iff.mp nonempty
  rw [line_eq_intercalate complete solid, line_eq_intercalate complete' solid',
    ← words_inj complete complete']
  constructor
  · intro same
    have split := congrArg (fun s : String ↦ s.toList.splitOn ' ') same
    simp only [apart (solid_words solid) (List.cons_ne_nil _ _),
      apart (solid_words solid') (List.cons_ne_nil _ _)] at split
    exact List.map_injective_iff.mpr (fun _ _ ↦ String.toList_inj.mp) split
  · intro same
    rw [same]

end Operation

/-! ### Instructions -/

namespace Instruction

variable {m m' : Memory} {i j : Instruction}

private theorem Stands.modes_eq (stands : i.Stands m) :
    i.modes = (i.modes.map Mode.digit).map Mode.ofDigit := by
  rw [stands.modes, Mode.ofWord, List.map_map, List.map_map]
  apply List.map_congr_left
  intro d _
  simp only [Function.comp, Mode.digit_ofDigit]

private theorem Stands.length_modes (stands : i.Stands m) : i.modes.length = i.operands.length := by
  rw [stands.modes, Mode.length_ofWord, Int.toNat_natCast, stands.complete]

private theorem operandTexts_inj (whole : i.modes.length = i.operands.length)
    (whole' : j.modes.length = j.operands.length) :
    i.operandTexts = j.operandTexts ↔ i.operands = j.operands ∧ i.modes = j.modes := by
  constructor
  · intro same
    rw [operandTexts, operandTexts, ← List.map_uncurry_zip_eq_zipWith,
      ← List.map_uncurry_zip_eq_zipWith] at same
    have pairs : i.operands.zip i.modes = j.operands.zip j.modes := by
      refine List.map_injective_iff.mpr ?_ same
      rintro ⟨v, m⟩ ⟨w, n⟩ alike
      obtain ⟨rfl, rfl⟩ := Mode.operandText_inj.mp alike
      rfl
    have apart := congrArg List.unzip pairs
    rw [List.unzip_zip whole.symm, List.unzip_zip whole'.symm] at apart
    exact Prod.mk.inj apart
  · rintro ⟨operands, modes⟩
    rw [operandTexts, operandTexts, operands, modes]

private theorem Stands.operandTexts (stands : i.Stands m) :
    i.operandTexts.length = i.operation.arity ∧ ∀ s ∈ i.operandTexts, Solid s := by
  constructor
  · rw [Instruction.operandTexts, List.length_zipWith, stands.length_modes, stands.complete,
      Nat.min_self]
  · intro s hs
    obtain ⟨k, hk, rfl⟩ := List.mem_iff_getElem.mp hs
    simp only [Instruction.operandTexts, List.getElem_zipWith]
    exact Mode.solid_operandText _ _

/-- Instructions in memory have the same text exactly if they do the same. -/
theorem Stands.text_eq_iff (stands : i.Stands m) (stands' : j.Stands m') :
    i.text = j.text ↔ i.Same j := by
  have modes : i.modes = j.modes ↔ i.modes.map Mode.digit = j.modes.map Mode.digit := by
    constructor
    · intro same
      rw [same]
    · intro same
      rw [stands.modes_eq, stands'.modes_eq, same]
  obtain ⟨complete, solid⟩ := stands.operandTexts
  obtain ⟨complete', solid'⟩ := stands'.operandTexts
  rw [text, text, Operation.line_inj complete complete' solid solid',
    operandTexts_inj stands.length_modes stands'.length_modes, modes]
  exact ⟨fun ⟨operation, operands, digits⟩ ↦ ⟨operation, operands, digits⟩,
    fun ⟨operation, operands, digits⟩ ↦ ⟨operation, operands, digits⟩⟩

private theorem text_of_traceLine (nonneg : 0 ≤ i.address) (nonneg' : 0 ≤ j.address)
    (same : i.traceLine = j.traceLine) : i.text = j.text := by
  have behind {k : Instruction} (nonneg : 0 ≤ k.address) :
      k.traceLine.toList.dropWhile (· ≠ ':') = ':' :: ' ' :: k.text.toList := by
    have chars : k.traceLine.toList =
        (zeroPadded 4 k.address).toList ++ ':' :: ' ' :: k.text.toList := by
      simp [traceLine, String.toList_append]
    rw [chars]
    exact dropWhile_ne_append (colon_notMem_zeroPadded nonneg 4) _
  have texts := congrArg (fun s : String ↦ s.toList.dropWhile (· ≠ ':')) same
  simp only [behind nonneg, behind nonneg'] at texts
  exact String.toList_inj.mp (List.cons.inj (List.cons.inj texts).2).2

private theorem Stands.same_of_cells (stands : i.Stands m) (stands' : j.Stands m')
    (cells : i.word :: i.operands = j.word :: j.operands) : i.Same j := by
  obtain ⟨word, operands⟩ := List.cons.inj cells
  have operation : i.operation = j.operation := by
    have named := Operation.ofCode?_code i.operation
    rw [← stands.code, word, stands'.code, Operation.ofCode?_code] at named
    exact (Option.some.inj named).symm
  exact ⟨operation, operands, by rw [stands.modes, stands'.modes, word, operation]⟩

/-- Whatever memories two instructions are decoded from, and wherever there, their texts are the same
exactly if they have the same operation, the same operands and the same digits of modes. So what is
noted of them is the same only then, and so are their lines in a listing. -/
theorem text_eq_iff_same {pc pc' : Int} (decoded : decode m pc = .ok i)
    (decoded' : decode m' pc' = .ok j) :
    (i.text = j.text ↔ i.Same j) ∧ (i.traceLine = j.traceLine → i.Same j) ∧
      ((Line.ofInstruction i).text = (Line.ofInstruction j).text → i.Same j) := by
  have stands := (decode_eq_ok_iff.mp decoded).2
  have stands' := (decode_eq_ok_iff.mp decoded').2
  have tells := Line.tells_ofInstruction decoded
  have tells' := Line.tells_ofInstruction decoded'
  have apart := stands.text_eq_iff stands'
  refine ⟨apart, ?_, ?_⟩
  · intro noted
    have nonneg : 0 ≤ i.address := (Memory.contains_iff.mp tells.inside).1
    have nonneg' : 0 ≤ j.address := (Memory.contains_iff.mp tells'.inside).1
    exact apart.mp (text_of_traceLine nonneg nonneg' noted)
  · intro listed
    apply stands.same_of_cells stands'
    have cells := tells.cellsIn_text
    rw [listed, tells'.cellsIn_text] at cells
    exact cells.symm

/-- Two products at different addresses, one with a digit above its modes, have the same text, and do
the same; a third one with another mode has another text. -/
theorem text_eq_iff_same_product :
    ∃ i j k, decode (Memory.ofList [1002, 4, 3, 4]) 0 = .ok i ∧
      decode (Memory.ofList [9, 101002, 4, 3, 4]) 1 = .ok j ∧
      decode (Memory.ofList [2002, 4, 3, 4]) 0 = .ok k ∧
      i.text = "MUL [4], #3 -> [4]" ∧ i.text = j.text ∧ i.Same j ∧
      k.text = "MUL [4], ?2:3 -> [4]" ∧ ¬i.Same k := by
  have first : decode (Memory.ofList [1002, 4, 3, 4]) 0 = .ok _ := rfl
  have second : decode (Memory.ofList [9, 101002, 4, 3, 4]) 1 = .ok _ := rfl
  have third : decode (Memory.ofList [2002, 4, 3, 4]) 0 = .ok _ := rfl
  refine ⟨_, _, _, first, second, third, by decide, by decide, ?_, by decide, ?_⟩
  · apply (text_eq_iff_same first second).1.mp
    decide
  · intro same
    have texts := (text_eq_iff_same first third).1.mpr same
    revert texts
    decide

end Instruction
end DecimalMachine
