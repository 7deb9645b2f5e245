import DecimalMachine.Text.Ranges

/-!
# Blank characters and trimming

Blank characters are the white space of Unicode together with the four separators
U+001C to U+001F. Padding around a number is narrower below U+0080: there only the space and the
five controls from tab to carriage return count.
-/

namespace DecimalMachine.Text

/-- The ranges of blank characters. -/
def blanks : Ranges := [
    (0x9, 0xD), (0x1C, 0x20), (0x85, 0x85), (0xA0, 0xA0), (0x1680, 0x1680), (0x2000, 0x200A),
    (0x2028, 0x2029), (0x202F, 0x202F), (0x205F, 0x205F), (0x3000, 0x3000)]

/-- White space of any kind. -/
def isBlank (c : Char) : Bool := blanks.contains c

/-- White space that may surround the text of an integer: the separators U+001C to U+001F may not. -/
def isPadding (c : Char) : Bool :=
  if c.toNat < 0x80 then c = ' ' || (decide (0x9 ≤ c.toNat) && decide (c.toNat ≤ 0xD))
  else isBlank c

/-- A text without the longest prefix and suffix of characters in a class. -/
def trim (p : Char → Bool) (cs : List Char) : List Char :=
  ((cs.dropWhile p).reverse.dropWhile p).reverse

/-- Padding is blank. -/
theorem isBlank_of_isPadding {c : Char} (padding : isPadding c = true) : isBlank c = true := by
  unfold isPadding at padding
  split at padding
  · rw [Bool.or_eq_true, Bool.and_eq_true, decide_eq_true_iff, decide_eq_true_iff,
      decide_eq_true_iff] at padding
    rw [isBlank, Ranges.contains_iff]
    rcases padding with rfl | control
    · exact ⟨(0x1C, 0x20), by decide⟩
    · exact ⟨(0x9, 0xD), by decide, control⟩
  · exact padding

/-- Nothing remains of a text made of the trimmed characters only. -/
theorem trim_eq_nil_of_all {p : Char → Bool} {cs : List Char} (h : ∀ c ∈ cs, p c = true) :
    trim p cs = [] := by
  have gone : cs.dropWhile p = [] := by
    induction cs with
    | nil => rfl
    | cons c cs ih => simp_all
  simp [trim, gone]

private theorem dropWhile_eq_self_of_head {p : Char → Bool} {cs : List Char}
    (kept : ∀ c, cs.head? = some c → p c = false) : cs.dropWhile p = cs := by
  cases cs with
  | nil => rfl
  | cons c cs => simp [kept c rfl]

/-- A text that neither begins nor ends with a trimmed character stays as it is. -/
theorem trim_eq_self {p : Char → Bool} {cs : List Char} (hb : ∀ c, cs.head? = some c → p c = false)
    (he : ∀ c, cs.getLast? = some c → p c = false) : trim p cs = cs := by
  rw [trim, dropWhile_eq_self_of_head hb,
    dropWhile_eq_self_of_head (by simpa [List.head?_reverse] using he), List.reverse_reverse]

/-- What is put around a text is trimmed off again, if something is left of the text. -/
theorem trim_padded {p : Char → Bool} {left body right : List Char}
    (before : ∀ c ∈ left, p c = true) (behind : ∀ c ∈ right, p c = true)
    (rest : trim p body ≠ []) : trim p (left ++ (body ++ right)) = trim p body := by
  have something : body.dropWhile p ≠ [] := by
    intro none
    apply rest
    rw [trim, none]
    rfl
  have back : ∀ c ∈ right.reverse, p c = true := by
    intro c h
    exact behind c (List.mem_reverse.mp h)
  have front : (left ++ (body ++ right)).dropWhile p = body.dropWhile p ++ right := by
    rw [List.dropWhile_append_of_pos before, List.dropWhile_append]
    simp [something]
  rw [trim, trim, front, List.reverse_append, List.dropWhile_append_of_pos back]

/-- What is trimmed off a text stands around the rest. -/
theorem exists_around_trim (p : Char → Bool) (cs : List Char) :
    ∃ left right, (∀ c ∈ left, p c = true) ∧ (∀ c ∈ right, p c = true) ∧
      cs = left ++ (trim p cs ++ right) := by
  have all (ds : List Char) : ∀ c ∈ ds.takeWhile p, p c = true := by
    intro c h
    have := List.all_takeWhile (l := ds) (p := p)
    exact List.all_eq_true.mp this c h
  refine ⟨cs.takeWhile p, ((cs.dropWhile p).reverse.takeWhile p).reverse, all cs, ?_, ?_⟩
  · intro c h
    exact all _ c (List.mem_reverse.mp h)
  · rw [trim, ← List.reverse_append, List.takeWhile_append_dropWhile, List.reverse_reverse,
      List.takeWhile_append_dropWhile]

end DecimalMachine.Text
