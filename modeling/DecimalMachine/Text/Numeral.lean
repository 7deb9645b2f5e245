import DecimalMachine.Text.Blank
import DecimalMachine.Text.Digit
import DecimalMachine.Text.Quoted

/-!
# Lenient integers

The integers of the command line are read leniently: padding around the text, one sign of either
kind, decimal digits of any script, and a single underscore between two digits.

Integers of any length are read: the limit of 4,300 digits that an interpreter may put on decimal text is
left out.
-/

namespace DecimalMachine.Text

/-- The text in place of an integer. -/
structure NotAnInteger where
  text : String
  deriving DecidableEq, Repr

/-- How many characters of a text that is no integer are shown, its quotes and escapes among them. -/
def NotAnInteger.shown : Nat := 200

/-- How a text that is no integer is reported. A long text is cut off, with whatever it ends in. -/
def NotAnInteger.message (e : NotAnInteger) : String :=
  "invalid literal for int() with base 10: " ++
    String.ofList ((quoted e.text).toList.take NotAnInteger.shown)

/-- The digits after a first one, each perhaps behind one underscore, continue its number. -/
def moreDigits? (n : Nat) : List Char → Option Nat
  | [] => some n
  | '_' :: c :: cs =>
    match digitValue? c with
    | some d => moreDigits? (10 * n + d) cs
    | none => none
  | c :: cs =>
    match digitValue? c with
    | some d => moreDigits? (10 * n + d) cs
    | none => none

/-- A number of at least one digit. -/
def natural? : List Char → Option Nat
  | [] => none
  | c :: cs =>
    match digitValue? c with
    | some d => moreDigits? d cs
    | none => none

/-- A number behind at most one sign. -/
def signed? : List Char → Option Int
  | '-' :: cs => (natural? cs).map fun n ↦ -(n : Int)
  | '+' :: cs => (natural? cs).map Int.ofNat
  | cs => (natural? cs).map Int.ofNat

/-- The integer that a text denotes, padding ignored. -/
def integer? (cs : List Char) : Option Int := signed? (trim isPadding cs)

/-- The integer that a text denotes, or the text itself as the complaint. -/
def readInteger (s : String) : Except NotAnInteger Int :=
  match integer? s.toList with
  | some n => .ok n
  | none => .error ⟨s⟩

/-- No digit of any script is blank. -/
theorem isBlank_of_digit {c : Char} {d : Nat} (digit : digitValue? c = some d) :
    isBlank c = false := by
  have apart : ∀ z ∈ zeros, ∀ r ∈ blanks, r.2 < z ∨ z + 9 < r.1 := by decide
  rw [digitValue?, Option.map_eq_some_iff] at digit
  obtain ⟨z, found, -⟩ := digit
  have inside := List.find?_some found
  rw [Bool.and_eq_true, decide_eq_true_iff, decide_eq_true_iff] at inside
  rw [isBlank, ← Bool.not_eq_true, Ranges.contains_iff]
  rintro ⟨r, hr, low, high⟩
  have := apart z (List.mem_of_find?_eq_some found) r hr
  omega

/-- A digit continues the number in front of it. -/
theorem moreDigits?_digit {n d : Nat} {c : Char} (digit : digitValue? c = some d) (cs : List Char) :
    moreDigits? n (c :: cs) = moreDigits? (10 * n + d) cs := by
  have figure : c ≠ '_' := by
    rintro rfl
    cases digit
  rw [moreDigits?.eq_3 n c cs fun b bs same _ ↦ figure same, digit]

/-- A digit behind an underscore continues the number in front of both. -/
theorem moreDigits?_underscore {n d : Nat} {c : Char} (digit : digitValue? c = some d)
    (cs : List Char) : moreDigits? n ('_' :: c :: cs) = moreDigits? (10 * n + d) cs := by
  rw [moreDigits?, digit]

/-- A number begins with a digit. -/
theorem natural?_digit {d : Nat} {c : Char} (digit : digitValue? c = some d) (cs : List Char) :
    natural? (c :: cs) = moreDigits? d cs := by
  rw [natural?, digit]

/-- What does not begin with a digit is no number. -/
theorem exists_digit_of_natural? {n : Nat} {cs : List Char} (read : natural? cs = some n) :
    ∃ c d rest, cs = c :: rest ∧ digitValue? c = some d ∧ moreDigits? d rest = some n := by
  cases cs with
  | nil => cases read
  | cons c rest =>
    cases digit : digitValue? c with
    | none =>
      rw [natural?, digit] at read
      cases read
    | some d =>
      rw [natural?_digit digit] at read
      exact ⟨c, d, rest, rfl, digit, read⟩

/-- Reading fails only with the text that was read. -/
theorem readInteger_eq_error_iff {s : String} {e : NotAnInteger} :
    readInteger s = .error e ↔ integer? s.toList = none ∧ e = ⟨s⟩ := by
  unfold readInteger
  split
  · next h => simp [h]
  · next h => simp [h, eq_comm]

/-- Reading succeeds exactly with the integer that the characters denote. -/
theorem readInteger_eq_ok_iff {s : String} {n : Int} :
    readInteger s = .ok n ↔ integer? s.toList = some n := by
  unfold readInteger
  split
  · next h => simp [h]
  · next h => simp [h]

end DecimalMachine.Text
