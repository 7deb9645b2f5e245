import DecimalMachine.Text.Decimal
import DecimalMachine.Text.Numeral

/-!
# Decimal text, read leniently

The decimal text of an integer has nothing around it that would be taken off, and its digits are those of
the first of all scripts. So whoever reads integers leniently reads it as the integer.
-/

namespace DecimalMachine.Text

/-- A number below zero is written with a sign in front. -/
theorem toList_decimal_negSucc (k : Nat) :
    (decimal (.negSucc k)).toList = '-' :: (toString (k + 1)).toList :=
  String.toList_append

/-- A number is written with digits and a sign. -/
theorem isDigit_or_of_mem_decimal {n : Int} {c : Char} (h : c ∈ (decimal n).toList) :
    c.isDigit = true ∨ c = '-' := by
  cases n with
  | ofNat k => exact .inl (isDigit_of_mem_repr h)
  | negSucc k =>
    rw [toList_decimal_negSucc, List.mem_cons] at h
    exact h.symm.imp isDigit_of_mem_repr id

/-- A number is passed over together with its sign. -/
theorem dropWhile_decimal (n : Int) (cs : List Char) :
    ((decimal n).toList ++ cs).dropWhile (fun c ↦ c.isDigit || c == '-') =
      cs.dropWhile fun c ↦ c.isDigit || c == '-' := by
  rw [List.dropWhile_append_of_pos]
  intro c h
  simpa using isDigit_or_of_mem_decimal h

private theorem toNat_of_isDigit {c : Char} (digit : c.isDigit = true) :
    0x30 ≤ c.toNat ∧ c.toNat ≤ 0x30 + 9 := by
  rw [Char.isDigit, Bool.and_eq_true, decide_eq_true_iff, decide_eq_true_iff] at digit
  exact digit

private theorem digitValue?_of_isDigit {c : Char} (digit : c.isDigit = true) :
    digitValue? c = some (c.toNat - '0'.toNat) := by
  obtain ⟨others, first⟩ : ∃ others, zeros = 0x30 :: others := ⟨_, rfl⟩
  rw [digitValue?, first, List.find?_cons_of_pos (by simpa using toNat_of_isDigit digit)]
  rfl

private theorem moreDigits?_of_isDigit {cs : List Char} (digits : ∀ c ∈ cs, c.isDigit = true)
    (n : Nat) :
    moreDigits? n cs = some (Nat.ofDigitChars 10 cs n) := by
  induction cs generalizing n with
  | nil => rfl
  | cons c cs ih =>
    rw [List.forall_mem_cons] at digits
    rw [moreDigits?_digit (digitValue?_of_isDigit digits.1), ih digits.2, Nat.ofDigitChars_cons]

/-- The decimal text of a natural number is read as the number. -/
theorem natural?_toString (n : Nat) : natural? (toString n).toList = some n := by
  have digits : ∀ c ∈ (toString n).toList, c.isDigit = true := fun c hc ↦ isDigit_of_mem_repr hc
  have number := ofDigitChars_repr n
  cases text : (toString n).toList with
  | nil =>
    rw [Nat.toString_eq_ofList_toDigits, String.toList_ofList] at text
    exact absurd text Nat.toDigits_ne_nil
  | cons c cs =>
    rw [text] at digits number
    rw [List.forall_mem_cons] at digits
    rw [natural?_digit (digitValue?_of_isDigit digits.1), moreDigits?_of_isDigit digits.2]
    rw [Nat.ofDigitChars_cons] at number
    simpa using number

/-- Neither a digit nor a sign is blank. -/
theorem isBlank_eq_false {c : Char} (h : c.isDigit = true ∨ c = '-') : isBlank c = false := by
  rcases h with digit | rfl
  · exact isBlank_of_digit (digitValue?_of_isDigit digit)
  · decide

private theorem isPadding_eq_false {c : Char} (h : c.isDigit = true ∨ c = '-') :
    isPadding c = false := by
  rw [← Bool.not_eq_true]
  intro padding
  exact Bool.eq_false_iff.mp (isBlank_eq_false h) (isBlank_of_isPadding padding)

/-- The decimal text of an integer is read as the integer. -/
theorem readInteger_decimal (n : Int) : readInteger (decimal n) = .ok n := by
  have bare : trim isPadding (decimal n).toList = (decimal n).toList := by
    apply trim_eq_self
    · intro c hc
      exact isPadding_eq_false (isDigit_or_of_mem_decimal (List.mem_of_mem_head? hc))
    · intro c hc
      exact isPadding_eq_false (isDigit_or_of_mem_decimal (List.mem_of_getLast? hc))
  rw [readInteger_eq_ok_iff, integer?, bare]
  cases n with
  | ofNat k =>
    have number : natural? (decimal (.ofNat k)).toList = some k := natural?_toString k
    have digits : ∀ c ∈ (decimal (.ofNat k)).toList, c.isDigit = true :=
      fun c hc ↦ isDigit_of_mem_repr hc
    unfold signed?
    split
    · next same =>
      rw [same] at digits
      cases digits '-' List.mem_cons_self
    · next same =>
      rw [same] at digits
      cases digits '+' List.mem_cons_self
    · rw [number]
      rfl
  | negSucc k =>
    rw [toList_decimal_negSucc, signed?, natural?_toString]
    rfl

/-- Numbers are told apart by their text. -/
theorem decimal_injective : Function.Injective decimal := by
  intro a b same
  have read := readInteger_decimal a
  rw [same, readInteger_decimal b] at read
  exact (Except.ok.inj read).symm

/-- A number is written with something. -/
theorem toList_decimal_ne_nil (n : Int) : (decimal n).toList ≠ [] := by
  cases n with
  | ofNat k =>
    show (toString k).toList ≠ []
    rw [Nat.toString_eq_ofList_toDigits, String.toList_ofList]
    exact Nat.toDigits_ne_nil
  | negSucc k =>
    rw [toList_decimal_negSucc]
    exact List.cons_ne_nil _ _

/-- A text is passed over up to the first place of a character. -/
theorem dropWhile_ne_append {c : Char} {front : List Char} (first : c ∉ front) (back : List Char) :
    (front ++ c :: back).dropWhile (· ≠ c) = c :: back := by
  rw [List.dropWhile_append_of_pos, List.dropWhile_cons_of_neg (by simp)]
  intro b h
  apply decide_eq_true
  rintro rfl
  exact first h

/-- A text is kept up to the first place of a character. -/
theorem takeWhile_ne_append {c : Char} {front : List Char} (first : c ∉ front) (back : List Char) :
    (front ++ c :: back).takeWhile (· ≠ c) = front := by
  have whole := List.takeWhile_append_dropWhile (l := front ++ c :: back) (p := (· ≠ c))
  rw [dropWhile_ne_append first] at whole
  exact List.append_cancel_right whole

/-- A character is in separated texts if it is in one of them or in what separates them. -/
theorem mem_of_mem_intercalate {c : Char} {separator : String} {parts : List String}
    (h : c ∈ (separator.intercalate parts).toList) :
    c ∈ separator.toList ∨ ∃ p ∈ parts, c ∈ p.toList := by
  rw [String.toList_intercalate] at h
  induction parts with
  | nil => cases h
  | cons p ps ih =>
    cases ps with
    | nil => exact .inr ⟨p, List.mem_cons_self, by simpa using h⟩
    | cons q qs =>
      rw [List.map_cons, List.map_cons, List.intercalate_cons_cons, List.mem_append,
        List.mem_append] at h
      rcases h with (first | between) | behind
      · exact .inr ⟨p, List.mem_cons_self, first⟩
      · exact .inl between
      · exact (ih behind).imp_right fun ⟨r, hr, inside⟩ ↦ ⟨r, List.mem_cons_of_mem p hr, inside⟩

/-- The piece of a list between two separators does not hold a separator itself. -/
theorem not_mem_of_mem_splitOn {α : Type} [DecidableEq α] {x : α} {xs t : List α}
    (h : t ∈ xs.splitOn x) : x ∉ t := by
  induction xs generalizing t with
  | nil =>
    rw [List.splitOn_nil, List.mem_singleton] at h
    simp [h]
  | cons y ys ih =>
    rw [List.splitOn_cons_eq_if_modifyHead] at h
    split at h
    · rcases List.mem_cons.mp h with rfl | h
      · exact List.not_mem_nil
      · exact ih h
    · next other =>
      cases hs : ys.splitOn x with
      | nil => exact absurd hs (List.splitOn_ne_nil x ys)
      | cons first rest =>
        rw [hs, List.modifyHead_cons] at h
        rcases List.mem_cons.mp h with rfl | h
        · have apart : x ≠ y := fun same ↦ other (beq_iff_eq.mpr same.symm)
          have clear : x ∉ first := ih (hs ▸ List.mem_cons_self)
          simp [apart, clear]
        · exact ih (hs ▸ List.mem_cons_of_mem first h)

/-- Numbers that are joined by a character which is part of none are split there again. -/
theorem splitOn_joined_decimals {c : Char} (other : c.isDigit = false) (unsigned : c ≠ '-')
    {ns : List Int} (nonempty : ns ≠ []) :
    ((String.singleton c).intercalate (ns.map decimal)).toList.splitOn c =
      ns.map fun n ↦ (decimal n).toList := by
  rw [String.toList_intercalate, String.toList_singleton, List.map_map]
  apply List.splitOn_intercalate
  · intro t ht inside
    obtain ⟨n, -, rfl⟩ := List.mem_map.mp ht
    rcases isDigit_or_of_mem_decimal inside with digit | sign
    · rw [digit] at other
      cases other
    · exact unsigned sign
  · exact mt List.map_eq_nil_iff.mp nonempty

end DecimalMachine.Text
