import DecimalMachine.Proofs.Text.Numerals

/-!
# What is read as an integer

The lenient reader of integers accepts a grammar: padding on either side, at most one sign, and
figures of any script, two of which may have one underscore between them. Every text of the grammar
is read as the integer that the grammar says, and no other text is read at all.
-/

namespace DecimalMachine.Text

/-- Decimal digits and the number they make. One underscore may stand between two of them. -/
inductive Figures : List Char → Nat → Prop
  | first {c : Char} {d : Nat} (digit : digitValue? c = some d) : Figures [c] d
  | next {cs : List Char} {n : Nat} {c : Char} {d : Nat} (front : Figures cs n)
      (digit : digitValue? c = some d) : Figures (cs ++ [c]) (10 * n + d)
  | apart {cs : List Char} {n : Nat} {c : Char} {d : Nat} (front : Figures cs n)
      (digit : digitValue? c = some d) : Figures (cs ++ ['_', c]) (10 * n + d)

/-- Figures with at most one sign in front. -/
inductive SignedFigures : List Char → Int → Prop
  | plain {cs : List Char} {n : Nat} (figures : Figures cs n) : SignedFigures cs n
  | plus {cs : List Char} {n : Nat} (figures : Figures cs n) : SignedFigures ('+' :: cs) n
  | minus {cs : List Char} {n : Nat} (figures : Figures cs n) : SignedFigures ('-' :: cs) (-n)

/-- The texts of an integer: figures that may be signed, between padding. -/
inductive IntegerText : List Char → Int → Prop
  | padded {left body right : List Char} {n : Int} (before : ∀ c ∈ left, isPadding c = true)
      (signed : SignedFigures body n) (behind : ∀ c ∈ right, isPadding c = true) :
      IntegerText (left ++ (body ++ right)) n

/-! ### Figures -/

private theorem moreDigits?_append {n k : Nat} {cs : List Char} (read : moreDigits? n cs = some k)
    (ds : List Char) : moreDigits? n (cs ++ ds) = moreDigits? k ds := by
  fun_induction moreDigits? n cs with
  | case1 n =>
    cases read
    rw [List.nil_append]
  | case2 n c cs d digit ih =>
    rw [List.cons_append, List.cons_append, moreDigits?_underscore digit]
    exact ih read
  | case4 n c cs _ d digit ih =>
    rw [List.cons_append, moreDigits?_digit digit]
    exact ih read
  | case3 => cases read
  | case5 => cases read

private theorem Figures.more {front cs : List Char} {n k : Nat} (figures : Figures front n)
    (read : moreDigits? n cs = some k) : Figures (front ++ cs) k := by
  fun_induction moreDigits? n cs generalizing front with
  | case1 n =>
    cases read
    rw [List.append_nil]
    exact figures
  | case2 n c cs d digit ih =>
    have further := ih (figures.apart digit) read
    rw [List.append_assoc] at further
    exact further
  | case4 n c cs _ d digit ih =>
    have further := ih (figures.next digit) read
    rw [List.append_assoc] at further
    exact further
  | case3 => cases read
  | case5 => cases read

private theorem natural?_append {n : Nat} {cs : List Char} (read : natural? cs = some n)
    (ds : List Char) :
    natural? (cs ++ ds) = moreDigits? n ds := by
  obtain ⟨c, d, rest, rfl, digit, further⟩ := exists_digit_of_natural? read
  rw [List.cons_append, natural?_digit digit]
  exact moreDigits?_append further ds

/-- Numbers are read from figures, and from nothing else. -/
theorem natural?_iff_figures {cs : List Char} {n : Nat} : natural? cs = some n ↔ Figures cs n := by
  constructor
  · intro read
    obtain ⟨c, d, rest, rfl, digit, further⟩ := exists_digit_of_natural? read
    exact (Figures.first digit).more further
  · intro figures
    induction figures with
    | first digit => rw [natural?_digit digit, moreDigits?]
    | next _ digit ih => rw [natural?_append ih, moreDigits?_digit digit, moreDigits?]
    | apart _ digit ih => rw [natural?_append ih, moreDigits?_underscore digit, moreDigits?]

private theorem Figures.head {cs : List Char} {n : Nat} (figures : Figures cs n) :
    ∃ c d, cs.head? = some c ∧ digitValue? c = some d := by
  obtain ⟨c, d, rest, rfl, digit, -⟩ := exists_digit_of_natural? (natural?_iff_figures.mpr figures)
  exact ⟨c, d, rfl, digit⟩

private theorem Figures.chars {cs : List Char} {n : Nat} (figures : Figures cs n) :
    ∀ c ∈ cs, c = '_' ∨ ∃ d, digitValue? c = some d := by
  induction figures with
  | first digit => simp [digit]
  | next _ digit ih =>
    rw [List.forall_mem_append]
    exact ⟨ih, by simp [digit]⟩
  | apart _ digit ih =>
    rw [List.forall_mem_append]
    exact ⟨ih, by simp [digit]⟩

/-! ### Signs -/

private theorem signed?_minus (cs : List Char) :
    signed? ('-' :: cs) = (natural? cs).map fun n : Nat ↦ -(n : Int) := by
  rw [signed?]
  cases natural? cs with
  | none => rfl
  | some n => rfl

/-- Integers are read from figures that may be signed, and from nothing else. -/
theorem signed?_iff_figures {cs : List Char} {n : Int} :
    signed? cs = some n ↔ SignedFigures cs n := by
  constructor
  · intro read
    by_cases negative : ∃ ds, cs = '-' :: ds
    · obtain ⟨ds, rfl⟩ := negative
      rw [signed?_minus, Option.map_eq_some_iff] at read
      obtain ⟨k, number, rfl⟩ := read
      exact .minus (natural?_iff_figures.mp number)
    · unfold signed? at read
      split at read
      · exact absurd ⟨_, rfl⟩ negative
      · rw [Option.map_eq_some_iff] at read
        obtain ⟨k, number, rfl⟩ := read
        exact .plus (natural?_iff_figures.mp number)
      · rw [Option.map_eq_some_iff] at read
        obtain ⟨k, number, rfl⟩ := read
        exact .plain (natural?_iff_figures.mp number)
  · intro signed
    cases signed with
    | minus figures =>
      rw [signed?_minus, natural?_iff_figures.mpr figures]
      rfl
    | plus figures =>
      rw [signed?, natural?_iff_figures.mpr figures]
      rfl
    | plain figures =>
      -- Neither sign is a digit, so that the figures are not taken for something signed.
      obtain ⟨c, d, first, digit⟩ := figures.head
      unfold signed?
      split
      · cases first
        cases digit
      · cases first
        cases digit
      · rw [natural?_iff_figures.mpr figures]
        rfl

private theorem SignedFigures.ne_nil {cs : List Char} {n : Int} (signed : SignedFigures cs n) :
    cs ≠ [] := by
  cases signed with
  | plain figures =>
    obtain ⟨c, d, first, -⟩ := figures.head
    rintro rfl
    cases first
  | plus => exact List.cons_ne_nil _ _
  | minus => exact List.cons_ne_nil _ _

private theorem SignedFigures.chars {cs : List Char} {n : Int} (signed : SignedFigures cs n) :
    ∀ c ∈ cs, c ∈ ['+', '-', '_'] ∨ ∃ d, digitValue? c = some d := by
  have figure {ds : List Char} {k : Nat} (figures : Figures ds k) :
      ∀ c ∈ ds, c ∈ ['+', '-', '_'] ∨ ∃ d, digitValue? c = some d := by
    intro c h
    apply (figures.chars c h).imp_left
    rintro rfl
    decide
  cases signed with
  | plain figures => exact figure figures
  | plus figures => exact List.forall_mem_cons.mpr ⟨.inl (by decide), figure figures⟩
  | minus figures => exact List.forall_mem_cons.mpr ⟨.inl (by decide), figure figures⟩

/-! ### Padding -/

private theorem SignedFigures.visible {cs : List Char} {n : Int} (signed : SignedFigures cs n)
    {c : Char}
    (h : c ∈ cs) : isBlank c = false := by
  rcases signed.chars c h with mark | ⟨d, digit⟩
  · have marks : ['+', '-', '_'].any isBlank = false := by decide
    rw [← Bool.not_eq_true]
    exact List.any_eq_false.mp marks c mark
  · exact isBlank_of_digit digit

private theorem SignedFigures.trim_eq {cs : List Char} {n : Int} (signed : SignedFigures cs n)
    {p : Char → Bool} (blank : ∀ c, p c = true → isBlank c = true) : trim p cs = cs := by
  have kept : ∀ c ∈ cs, p c = false := by
    intro c h
    rw [← Bool.not_eq_true]
    intro dropped
    exact Bool.eq_false_iff.mp (signed.visible h) (blank c dropped)
  apply trim_eq_self
  · intro c h
    exact kept c (List.mem_of_mem_head? h)
  · intro c h
    exact kept c (List.mem_of_getLast? h)

/-! ### Texts -/

/-- The texts of an integer are read as the integer, and others are not read. -/
theorem integer?_iff_text {cs : List Char} {n : Int} : integer? cs = some n ↔ IntegerText cs n := by
  rw [integer?, signed?_iff_figures]
  constructor
  · intro signed
    obtain ⟨left, right, before, behind, whole⟩ := exists_around_trim isPadding cs
    rw [whole]
    exact .padded before signed behind
  · intro text
    cases text with
    | padded before signed behind =>
      have bare := signed.trim_eq fun c ↦ isBlank_of_isPadding
      rw [trim_padded before behind (by rw [bare]; exact signed.ne_nil), bare]
      exact signed

/-- The decimal text of an integer is one of its texts. -/
theorem integerText_decimal (n : Int) : IntegerText (decimal n).toList n := by
  rw [← integer?_iff_text, ← readInteger_eq_ok_iff]
  exact readInteger_decimal n

/-- More padding makes another text of the same integer. -/
theorem IntegerText.pad {cs left right : List Char} {n : Int} (text : IntegerText cs n)
    (before : ∀ c ∈ left, isPadding c = true) (behind : ∀ c ∈ right, isPadding c = true) :
    IntegerText (left ++ (cs ++ right)) n := by
  cases text with
  | @padded inner body outer _ before' signed behind' =>
    have whole : left ++ (inner ++ (body ++ outer) ++ right) =
        left ++ inner ++ (body ++ (outer ++ right)) := by
      simp only [List.append_assoc]
    rw [whole]
    apply IntegerText.padded _ signed
    · exact List.forall_mem_append.mpr ⟨behind', behind⟩
    · exact List.forall_mem_append.mpr ⟨before, before'⟩

/-- The text of an integer is not blank. -/
theorem IntegerText.trim_ne_nil {cs : List Char} {n : Int} (text : IntegerText cs n) :
    trim isBlank cs ≠ [] := by
  cases text with
  | padded before signed behind =>
    have bare := signed.trim_eq fun c blank ↦ blank
    rw [trim_padded (fun c h ↦ isBlank_of_isPadding (before c h))
      (fun c h ↦ isBlank_of_isPadding (behind c h)) (by rw [bare]; exact signed.ne_nil), bare]
    exact signed.ne_nil

/-- A character that is no padding, sign, underscore or digit is not in the text of an integer. -/
theorem IntegerText.notMem {cs : List Char} {n : Int} (text : IntegerText cs n) {c : Char}
    (nopadding : isPadding c = false) (nomark : c ∉ ['+', '-', '_'])
    (nodigit : digitValue? c = none) : c ∉ cs := by
  cases text with
  | @padded left body right _ before signed behind =>
    have bare : c ∉ body := by
      intro h
      rcases signed.chars c h with mark | ⟨d, digit⟩
      · exact nomark mark
      · cases nodigit.symm.trans digit
    rw [List.mem_append, List.mem_append]
    rintro (h | h | h)
    · exact Bool.eq_false_iff.mp nopadding (before c h)
    · exact bare h
    · exact Bool.eq_false_iff.mp nopadding (behind c h)

end DecimalMachine.Text
