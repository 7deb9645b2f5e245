import DecimalMachine.Proofs.Packing

/-!
# The digits behind the modes

The modes in a word are its decimal digits above the hundreds, the lowest first, for words on either
side of zero and as many as are counted. No other modes are these digits. So fewer modes are the first
of more, and what is added to a word above its modes does not change them.
-/

namespace DecimalMachine.Mode

/-- The modes are the lowest decimal digits of a number, as many as are counted, the lowest first. -/
structure DigitsOf (n count : Int) (modes : List Mode) : Prop where
  length : (modes.length : Int) = max count 0
  decimal : ∀ mode ∈ modes, 0 ≤ mode.digit ∧ mode.digit ≤ 9
  /-- A digit that has a meaning is the mode it means. -/
  named : ∀ mode ∈ modes, ofDigit mode.digit = mode
  number : number (modes.map digit) = n.fmod (10 ^ (max count 0).toNat)

/-! ### Digits -/

/-- Digits are the lowest of a number exactly if they make up what is left of it below the others. -/
theorem eq_digits_iff {ds : List Int} {k : Nat} {n : Int} :
    ds = digits k n ↔
      ds.length = k ∧ (∀ d ∈ ds, 0 ≤ d ∧ d ≤ 9) ∧ number ds = n % 10 ^ k := by
  constructor
  · intro same
    rw [same]
    exact ⟨length_digits k n, fun d ↦ decimal_of_mem_digits, number_digits k n⟩
  · intro ⟨length, decimal, low⟩
    have whole : number ds + n / 10 ^ k * 10 ^ k = n := by
      rw [low, Int.mul_comm]
      exact Int.emod_add_mul_ediv n (10 ^ k)
    have read := digits_number decimal (n / 10 ^ k)
    rw [length, whole] at read
    exact read.symm

private theorem digits_congr {k : Nat} {n m : Int} (same : n % 10 ^ k = m % 10 ^ k) :
    digits k n = digits k m := by
  rw [eq_digits_iff, ← same]
  exact ⟨length_digits k n, fun d ↦ decimal_of_mem_digits, number_digits k n⟩

private theorem digits_prefix {j k : Nat} (fewer : j ≤ k) (n : Int) :
    digits j n <+: digits k n := by
  induction j generalizing k n with
  | zero => exact List.nil_prefix
  | succ j ih =>
    cases k with
    | zero => omega
    | succ k =>
      rw [digits, digits, List.prefix_cons_inj]
      apply ih
      omega

/-! ### Modes -/

/-- Modes that were read off digits show these digits. -/
@[simp] theorem map_digit_ofDigit (ds : List Int) : (ds.map ofDigit).map digit = ds := by
  rw [List.map_map]
  exact List.map_id'' digit_ofDigit ds

private theorem ofDigit_of_mem_ofWord {word count : Int} {mode : Mode}
    (h : mode ∈ ofWord word count) :
    ofDigit mode.digit = mode := by
  rw [ofWord, List.mem_map] at h
  obtain ⟨d, -, rfl⟩ := h
  rw [digit_ofDigit]

/-- The modes in a word are the only ones that are its lowest digits above the hundreds. -/
theorem digitsOf_iff {modes : List Mode} {word count : Int} :
    DigitsOf (word.fdiv 100) count modes ↔ modes = ofWord word count := by
  have counted : (max count 0).toNat = count.toNat := by omega
  -- Both divisors are positive, so that rounding down is the division in which digits are told.
  have low : (word.fdiv 100).fmod (10 ^ count.toNat) = word / 100 % 10 ^ count.toNat := by
    rw [Int.fdiv_eq_ediv_of_nonneg word (by omega),
      Int.fmod_eq_emod_of_nonneg _ (Int.pow_nonneg (by omega))]
  constructor
  · intro are
    have digits : modes.map digit = digits count.toNat (word / 100) := by
      rw [eq_digits_iff, List.length_map, List.forall_mem_map, are.number, counted, low]
      have length := are.length
      exact ⟨by omega, are.decimal, rfl⟩
    have named : modes.map (ofDigit ∘ digit) = modes.map id := by
      apply List.map_congr_left
      exact are.named
    rw [ofWord, ← digits, List.map_map, named, List.map_id]
  · intro same
    have digits : modes.map digit = digits count.toNat (word / 100) := by
      rw [same, ofWord, map_digit_ofDigit]
    rw [eq_digits_iff, List.length_map, List.forall_mem_map] at digits
    constructor
    · omega
    · exact digits.2.1
    · intro mode h
      rw [same] at h
      exact ofDigit_of_mem_ofWord h
    · rw [digits.2.2, counted, low]

/-- Fewer modes are the first of more. -/
theorem ofWord_prefix {m n : Int} (fewer : m ≤ n) (word : Int) :
    ofWord word m <+: ofWord word n := by
  apply List.IsPrefix.map
  apply digits_prefix
  omega

/-- What is added to a word above its modes does not change them. -/
theorem ofWord_add_mul_pow (word above count : Int) :
    ofWord (word + above * 10 ^ (2 + count.toNat)) count = ofWord word count := by
  have high : (word + above * 10 ^ (2 + count.toNat)) / 100 =
      word / 100 + above * 10 ^ count.toNat := by
    rw [Int.pow_add, Int.mul_left_comm]
    exact Int.add_mul_ediv_left word (above * 10 ^ count.toNat) (by omega)
  rw [ofWord, ofWord, high]
  congr 1
  apply digits_congr
  exact Int.add_mul_emod_self_right (word / 100) above (10 ^ count.toNat)

/-- The modes in a word are its digits above the hundreds, rounded down, as many as are counted, and
no other modes are. So fewer of them are the first of more, and what is added to the word above them
does not change them. -/
theorem ofWord_is_digits_above_hundreds (word count : Int) :
    (∀ modes, DigitsOf (word.fdiv 100) count modes ↔ modes = ofWord word count) ∧
      (∀ m n, m ≤ n → ofWord word m <+: ofWord word n) ∧
        ∀ above, ofWord (word + above * 10 ^ (2 + count.toNat)) count = ofWord word count := by
  refine ⟨?_, ?_, ?_⟩
  · intro modes
    exact digitsOf_iff
  · intro m n fewer
    exact ofWord_prefix fewer word
  · intro above
    exact ofWord_add_mul_pow word above count

/-- A word below zero is rounded down, here to eleven hundreds below zero. -/
theorem ofWord_is_digits_above_hundreds_below_zero :
    DigitsOf (-11) 3 [.unassigned 9, .unassigned 8, .unassigned 9] ∧
      ofWord (-1002) 1 <+: ofWord (-1002) 3 ∧
        ofWord (-1002 + 7 * 10 ^ 5) 3 = [.unassigned 9, .unassigned 8, .unassigned 9] := by
  obtain ⟨only, shorter, above⟩ := ofWord_is_digits_above_hundreds (-1002) 3
  exact ⟨(only _).mpr rfl, shorter 1 3 (by omega), above 7⟩

end DecimalMachine.Mode
