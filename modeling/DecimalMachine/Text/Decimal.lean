/-!
# Decimal text of integers

Integers are written with a minus sign if negative and without leading zeros. Addresses are filled
with zeros to a width that counts the sign.

Integers of any length are written. A limit that an interpreter may put on the length of decimal text,
4,300 digits unless it is set otherwise, is left out, here and wherever text is read.
-/

namespace DecimalMachine.Text

/-- The decimal digits of an integer, after its sign if it is negative. -/
def decimal (n : Int) : String := toString n

/-- Decimal text with zeros between sign and digits up to a width that counts the sign. -/
def zeroPadded (width : Nat) (n : Int) : String :=
  let sign := if n < 0 then "-" else ""
  let digits := toString n.natAbs
  sign ++ String.ofList (List.replicate (width - sign.length - digits.length) '0') ++ digits

/-- Text filled with spaces on its right up to a width. -/
def rightPadded (width : Nat) (s : String) : String :=
  s ++ String.ofList (List.replicate (width - s.length) ' ')

/-- The digits of a natural number read back as the number. -/
theorem ofDigitChars_repr (n : Nat) : Nat.ofDigitChars 10 (toString n).toList 0 = n := by
  rw [Nat.toString_eq_ofList_toDigits, String.toList_ofList, Nat.ofDigitChars_ten_toDigits]

/-- The text of a natural number consists of digits. -/
theorem isDigit_of_mem_repr {n : Nat} {c : Char} (h : c ∈ (toString n).toList) :
    c.isDigit = true := by
  rw [Nat.toString_eq_ofList_toDigits, String.toList_ofList] at h
  exact Nat.isDigit_of_mem_toDigits (by omega) (by omega) h

end DecimalMachine.Text
