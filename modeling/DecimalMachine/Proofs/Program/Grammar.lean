import DecimalMachine.Program
import DecimalMachine.Proofs.Text.Numerals
import Mathlib.Data.List.Forall2
import Mathlib.Tactic.Ring

/-!
# The grammar of program text

A program text is cut at its commas. A piece denotes a number if it consists of decimal digits, at
least one, behind at most one minus sign. A text whose pieces all denote numbers is read as these
numbers; any other is refused for its first piece that denotes none, by the place of that piece.
-/

namespace DecimalMachine

/-- The fault of a text that stands behind so many other pieces. -/
def Fault.behind (n : Nat) : Fault → Fault
  | badToken token position => badToken token (position + n)
  | f => f

namespace Program

/-- The number that decimal digits make up, the highest first, each counted by its place. -/
def magnitude (ds : List Char) : Nat :=
  (ds.mapIdx fun i c ↦ (c.toNat - '0'.toNat) * 10 ^ (ds.length - 1 - i)).sum

/-- Decimal digits, at least one. -/
structure Digits (ds : List Char) : Prop where
  nonempty : ds ≠ []
  decimal : ∀ c ∈ ds, '0' ≤ c ∧ c ≤ '9'

/-- A piece of program text and the number it denotes. -/
inductive Denotes : List Char → Int → Prop where
  | plain {ds : List Char} (digits : Digits ds) : Denotes ds (magnitude ds)
  | minus {ds : List Char} (digits : Digits ds) : Denotes ('-' :: ds) (-magnitude ds)

/-- The pieces of a text between its commas. -/
structure Pieces (text : String) (ts : List (List Char)) : Prop where
  nonempty : ts ≠ []
  whole : ∀ t ∈ ts, delimiter ∉ t
  joined : text.toList = [delimiter].intercalate ts

/-- The first piece that denotes no number, with its place. -/
structure FirstBad (ts : List (List Char)) (j : Nat) (t : List Char) : Prop where
  there : ts[j]? = some t
  bad : ∀ n, ¬Denotes t n
  least : ∀ i < j, ∀ s, ts[i]? = some s → ∃ n, Denotes s n

/-! ### Pieces -/

/-- The pieces of a text are those it is split into. -/
theorem pieces_iff {text : String} {ts : List (List Char)} :
    Pieces text ts ↔ ts = text.toList.splitOn delimiter := by
  constructor
  · rintro ⟨nonempty, whole, joined⟩
    rw [joined, List.splitOn_intercalate delimiter whole nonempty]
  · rintro rfl
    exact ⟨List.splitOn_ne_nil _ _, fun t ht ↦ Text.not_mem_of_mem_splitOn ht,
      (List.intercalate_splitOn delimiter).symm⟩

/-! ### Digits -/

private theorem magnitude_cons (c : Char) (ds : List Char) :
    magnitude (c :: ds) = (c.toNat - '0'.toNat) * 10 ^ ds.length + magnitude ds := by
  have lower (i : Nat) : ds.length + 1 - 1 - (i + 1) = ds.length - 1 - i := by omega
  simp only [magnitude, List.mapIdx_cons, List.sum_cons, List.length_cons, lower]
  simp

private theorem ofDigitChars_eq_magnitude (ds : List Char) :
    Nat.ofDigitChars 10 ds 0 = magnitude ds := by
  induction ds with
  | nil => rfl
  | cons c ds ih =>
    rw [Nat.ofDigitChars_cons, Nat.ofDigitChars_eq_ofDigitChars_zero, ih, magnitude_cons,
      Nat.mul_zero, Nat.zero_add, Nat.mul_comm]

/-- A decimal digit lies between nought and nine. -/
theorem isDigit_iff {c : Char} : c.isDigit = true ↔ '0' ≤ c ∧ c ≤ '9' := by
  simp [Char.isDigit, Char.le_def]

/-- The number of a piece without a sign. -/
theorem natural?_eq_some_iff {cs : List Char} {n : Nat} :
    natural? cs = some n ↔ Digits cs ∧ n = magnitude cs := by
  have digits : cs ≠ [] ∧ cs.all Char.isDigit = true ↔ Digits cs := by
    rw [List.all_eq_true]
    exact ⟨fun h ↦ ⟨h.1, fun c hc ↦ isDigit_iff.mp (h.2 c hc)⟩,
      fun h ↦ ⟨h.1, fun c hc ↦ isDigit_iff.mpr (h.2 c hc)⟩⟩
  unfold natural?
  split
  · next h =>
    rw [ofDigitChars_eq_magnitude, Option.some.injEq]
    simp [digits.mp h, eq_comm]
  · next h => simp [mt digits.mpr h]

private theorem Digits.ne_minus {cs : List Char} (h : Digits ('-' :: cs)) : False := by
  have := h.decimal '-' List.mem_cons_self
  simp [Char.le_def] at this

private theorem token?_minus (ds : List Char) :
    token? ('-' :: ds) = (natural? ds).map fun n : Nat ↦ -(n : Int) := by
  simp only [token?]
  cases natural? ds with
  | none => rfl
  | some n => rfl

/-- A piece without a minus sign is read as the number that it is. -/
theorem token?_of_ne_minus {cs : List Char} (unsigned : ∀ ds, cs ≠ '-' :: ds) :
    token? cs = (natural? cs).map Int.ofNat := by
  unfold token?
  split
  · exact absurd rfl (unsigned _)
  · rfl

/-- A piece is read as the number that it denotes. -/
theorem token?_eq_some_iff {cs : List Char} {n : Int} : token? cs = some n ↔ Denotes cs n := by
  constructor
  · intro read
    by_cases signed : ∃ ds, cs = '-' :: ds
    · obtain ⟨ds, rfl⟩ := signed
      rw [token?_minus, Option.map_eq_some_iff] at read
      obtain ⟨k, number, rfl⟩ := read
      obtain ⟨digits, rfl⟩ := natural?_eq_some_iff.mp number
      exact .minus digits
    · rw [token?_of_ne_minus (not_exists.mp signed), Option.map_eq_some_iff] at read
      obtain ⟨k, number, rfl⟩ := read
      obtain ⟨digits, rfl⟩ := natural?_eq_some_iff.mp number
      exact .plain digits
  · rintro (digits | digits)
    · have unsigned (ds : List Char) : cs ≠ '-' :: ds := by
        rintro rfl
        exact digits.ne_minus
      rw [token?_of_ne_minus unsigned, natural?_eq_some_iff.mpr ⟨digits, rfl⟩]
      rfl
    · rw [token?_minus, natural?_eq_some_iff.mpr ⟨digits, rfl⟩]
      rfl

private theorem token?_eq_none_iff {cs : List Char} : token? cs = none ↔ ∀ n, ¬Denotes cs n := by
  simp only [← token?_eq_some_iff, Option.eq_none_iff_forall_ne_some, ne_eq]

/-- The decimal text of an integer is read as the integer. -/
theorem token?_decimal (n : Int) : token? (Text.decimal n).toList = some n := by
  rw [token?_eq_some_iff]
  cases n with
  | ofNat k =>
    obtain ⟨digits, number⟩ := natural?_eq_some_iff.mp (natural?_repr k)
    have denotes := Denotes.plain digits
    rwa [← number] at denotes
  | negSucc k =>
    obtain ⟨digits, number⟩ := natural?_eq_some_iff.mp (natural?_repr (k + 1))
    have denotes := Denotes.minus digits
    rwa [← number, ← Text.toList_decimal_negSucc] at denotes

/-! ### Several pieces -/

/-- Pieces are read as what they denote, one number for each. -/
theorem parseTokens_eq_ok_iff {k : Nat} {ts : List (List Char)} {cells : List Int} :
    parseTokens k ts = .ok cells ↔ List.Forall₂ Denotes ts cells := by
  induction ts generalizing k cells with
  | nil => simp [parseTokens, eq_comm]
  | cons t ts ih =>
    rw [parseTokens, List.forall₂_cons_left_iff]
    cases read : token? t with
    | none => simp [token?_eq_none_iff.mp read]
    | some n =>
      have denotes (m : Int) : Denotes t m ↔ n = m := by
        rw [← token?_eq_some_iff, read, Option.some.injEq]
      simp only [denotes]
      cases rest : parseTokens (k + 1) ts with
      | error f =>
        have none_read (ms : List Int) : ¬List.Forall₂ Denotes ts ms := by
          rw [← ih (k := k + 1), rest]
          simp
        simp [Except.map, none_read]
      | ok ms =>
        have same (ms' : List Int) : List.Forall₂ Denotes ts ms' ↔ ms = ms' := by
          rw [← ih (k := k + 1), rest, Except.ok.injEq]
        simp [Except.map, same, eq_comm]

private theorem firstBad_cons_of_bad {ts : List (List Char)} {t s : List Char} {j : Nat}
    (bad : ∀ n, ¬Denotes t n) : FirstBad (t :: ts) j s ↔ j = 0 ∧ s = t := by
  constructor
  · intro first
    cases j with
    | zero => exact ⟨rfl, Option.some.inj first.there.symm⟩
    | succ j =>
      obtain ⟨n, denotes⟩ := first.least 0 (Nat.succ_pos j) t rfl
      exact absurd denotes (bad n)
  · rintro ⟨rfl, rfl⟩
    exact ⟨rfl, bad, fun i hi ↦ absurd hi (Nat.not_lt_zero i)⟩

private theorem firstBad_cons_of_denotes {ts : List (List Char)} {t s : List Char} {j : Nat}
    {n : Int}
    (denotes : Denotes t n) : FirstBad (t :: ts) j s ↔ ∃ i, j = i + 1 ∧ FirstBad ts i s := by
  constructor
  · intro first
    cases j with
    | zero =>
      rw [← Option.some.inj first.there] at first
      exact absurd denotes (first.bad n)
    | succ j =>
      exact ⟨j, rfl, first.there, first.bad, fun i hi ↦ first.least (i + 1) (Nat.succ_lt_succ hi)⟩
  · rintro ⟨i, rfl, first⟩
    refine ⟨first.there, first.bad, fun k hk u hu ↦ ?_⟩
    cases k with
    | zero => exact ⟨n, Option.some.inj hu ▸ denotes⟩
    | succ k => exact first.least k (Nat.lt_of_succ_lt_succ hk) u hu

/-- Pieces are refused for the first that denotes no number. -/
theorem parseTokens_eq_error_iff {k : Nat} {ts : List (List Char)} {f : Fault} :
    parseTokens k ts = .error f ↔
      ∃ j t, FirstBad ts j t ∧ f = .badToken (String.ofList t) (k + j : Nat) := by
  induction ts generalizing k with
  | nil =>
    have none_there (j : Nat) (t : List Char) : ¬FirstBad [] j t := fun first ↦ by
      cases first.there
    simp [parseTokens, none_there]
  | cons t ts ih =>
    rw [parseTokens]
    cases read : token? t with
    | none => simp [firstBad_cons_of_bad (token?_eq_none_iff.mp read), eq_comm]
    | some n =>
      simp only [firstBad_cons_of_denotes (token?_eq_some_iff.mp read)]
      have passed : (parseTokens (k + 1) ts).map (n :: ·) = .error f ↔
          parseTokens (k + 1) ts = .error f := by
        cases parseTokens (k + 1) ts with
        | error g => simp [Except.map]
        | ok ms => simp [Except.map]
      rw [passed, ih]
      constructor
      · rintro ⟨i, s, first, rfl⟩
        exact ⟨i + 1, s, ⟨i, rfl, first⟩, by rw [Nat.add_right_comm, Nat.add_assoc]⟩
      · rintro ⟨_, s, ⟨i, rfl, first⟩, rfl⟩
        exact ⟨i, s, first, by rw [Nat.add_right_comm, Nat.add_assoc]⟩

private theorem parseTokens_add (k n : Nat) (ts : List (List Char)) :
    parseTokens (k + n) ts = (parseTokens k ts).mapError (Fault.behind n) := by
  induction ts generalizing k with
  | nil => rfl
  | cons t ts ih =>
    rw [parseTokens, parseTokens]
    cases token? t with
    | none => simp [Except.mapError, Fault.behind]
    | some m =>
      simp only [Nat.add_right_comm k n 1, ih]
      cases parseTokens (k + 1) ts with
      | error f => rfl
      | ok ms => rfl

private theorem parseTokens_append (k : Nat) (ts us : List (List Char)) :
    parseTokens k (ts ++ us) =
      match parseTokens k ts with
      | .error f => .error f
      | .ok xs => (parseTokens (k + ts.length) us).map (xs ++ ·) := by
  induction ts generalizing k with
  | nil =>
    simp only [List.nil_append, parseTokens, List.length_nil, Nat.add_zero]
    cases parseTokens k us with
    | error f => rfl
    | ok ys => rfl
  | cons t ts ih =>
    rw [List.cons_append, parseTokens, parseTokens]
    cases token? t with
    | none => rfl
    | some n =>
      have place : k + (t :: ts).length = k + 1 + ts.length := by
        rw [List.length_cons, Nat.add_assoc, Nat.add_comm 1]
      simp only [ih, place]
      cases parseTokens (k + 1) ts with
      | error f => rfl
      | ok xs =>
        simp only [Except.map]
        cases parseTokens (k + 1 + ts.length) us with
        | error f => rfl
        | ok ys => rfl

/-- Pieces are read exactly if each of them denotes a number. -/
theorem parseTokens_reads_iff {k : Nat} {ts : List (List Char)} :
    (∃ cells, parseTokens k ts = .ok cells) ↔ ∀ t ∈ ts, ∃ n, Denotes t n := by
  simp only [parseTokens_eq_ok_iff]
  induction ts with
  | nil => simp
  | cons t ts ih =>
    rw [List.forall_mem_cons, ← ih]
    constructor
    · rintro ⟨_, _ | ⟨denotes, others⟩⟩
      exact ⟨⟨_, denotes⟩, _, others⟩
    · rintro ⟨⟨n, denotes⟩, ms, others⟩
      exact ⟨n :: ms, .cons denotes others⟩

/-! ### Texts -/

/-- As many cells are read as there are pieces. -/
theorem length_of_parseTokens {k : Nat} {ts : List (List Char)} {cells : List Int}
    (read : parseTokens k ts = .ok cells) : ts.length = cells.length :=
  (parseTokens_eq_ok_iff.mp read).length_eq

/-- Two texts with a comma between them are read one behind the other. -/
theorem parse_append (a b : String) :
    parse (a ++ String.singleton delimiter ++ b) =
      match parse a, parse b with
      | .error f, _ => .error f
      | .ok xs, .ok ys => .ok (xs ++ ys)
      | .ok xs, .error f => .error (f.behind xs.length) := by
  have split : (a ++ String.singleton delimiter ++ b).toList.splitOn delimiter =
      a.toList.splitOn delimiter ++ b.toList.splitOn delimiter := by
    rw [String.toList_append, String.toList_append, String.toList_singleton, List.append_assoc]
    exact List.splitOn_append_cons_self _ _
  simp only [parse, split, parseTokens_append]
  cases read : parseTokens 0 (a.toList.splitOn delimiter) with
  | error f => rfl
  | ok xs =>
    simp only [length_of_parseTokens read, parseTokens_add]
    cases parseTokens 0 (b.toList.splitOn delimiter) with
    | error f => rfl
    | ok ys => rfl

/-- A text is read exactly if every piece of it between two commas denotes a number, and then as these
numbers, one cell for each; otherwise it is refused for the first piece that denotes none. Two texts
with a comma between them are read one behind the other: what is wrong with the first comes first,
and what is wrong with the second is counted behind the cells of the first. -/
theorem parse_accepts_grammar :
    (∀ text, ∃! ts, Pieces text ts) ∧
      (∀ text ts, Pieces text ts →
        ((∃ cells, parse text = .ok cells) ↔ ∀ t ∈ ts, ∃ n, Denotes t n) ∧
          (∀ cells, parse text = .ok cells ↔ List.Forall₂ Denotes ts cells) ∧
            ∀ f, parse text = .error f ↔
              ∃ j t, FirstBad ts j t ∧ f = .badToken (String.ofList t) j) ∧
        ∀ a b, parse (a ++ String.singleton delimiter ++ b) =
          match parse a, parse b with
          | .error f, _ => .error f
          | .ok xs, .ok ys => .ok (xs ++ ys)
          | .ok xs, .error f => .error (f.behind xs.length) := by
  refine ⟨fun text ↦ ?_, fun text ts pieces ↦ ?_, parse_append⟩
  · exact ⟨_, pieces_iff.mpr rfl, fun ts pieces ↦ pieces_iff.mp pieces⟩
  · obtain rfl := pieces_iff.mp pieces
    refine ⟨parseTokens_reads_iff, fun cells ↦ parseTokens_eq_ok_iff, fun f ↦ ?_⟩
    simp only [parse, parseTokens_eq_error_iff, Nat.zero_add]

/-- A text with leading zeros behind a minus sign is read, and one with a plus sign is refused there. -/
theorem parse_accepts_grammar_signs :
    Pieces "-007,+5,x" [['-', '0', '0', '7'], ['+', '5'], ['x']] ∧
      parse "-007,+5,x" = .error (.badToken "+5" 1) ∧
      parse ("-007" ++ String.singleton delimiter ++ "1x") = .error (.badToken "1x" 1) := by
  have pieces : Pieces "-007,+5,x" [['-', '0', '0', '7'], ['+', '5'], ['x']] :=
    ⟨by decide, by decide, by decide⟩
  have seven : Denotes ['-', '0', '0', '7'] (-7) := token?_eq_some_iff.mp rfl
  have first : FirstBad [['-', '0', '0', '7'], ['+', '5'], ['x']] 1 ['+', '5'] := by
    refine ⟨rfl, token?_eq_none_iff.mp rfl, fun i hi s hs ↦ ?_⟩
    obtain rfl : i = 0 := by omega
    exact ⟨-7, Option.some.inj hs ▸ seven⟩
  obtain ⟨-, grammar, behind⟩ := parse_accepts_grammar
  refine ⟨pieces, ((grammar _ _ pieces).2.2 _).mpr ⟨1, _, first, rfl⟩, ?_⟩
  have front : parse "-007" = .ok [-7] :=
    ((grammar "-007" [['-', '0', '0', '7']] ⟨by decide, by decide, by decide⟩).2.1 _).mpr
      (.cons seven .nil)
  have back : parse "1x" = .error (.badToken "1x" 0) :=
    ((grammar "1x" [['1', 'x']] ⟨by decide, by decide, by decide⟩).2.2 _).mpr
      ⟨0, _, (firstBad_cons_of_bad (token?_eq_none_iff.mp rfl)).mpr ⟨rfl, rfl⟩, rfl⟩
  rw [behind, front, back]
  rfl

end Program
end DecimalMachine
