/-!
# Classes of characters given by code ranges

A class of characters is a list of inclusive ranges of code points. Membership is the
existence of a range around the code point, whatever the order of the list.
-/

namespace DecimalMachine.Text

/-- A class of characters, as inclusive ranges of code points. -/
abbrev Ranges : Type := List (Nat × Nat)

namespace Ranges

/-- Membership of a character in a class. -/
def contains (rs : Ranges) (c : Char) : Bool :=
  rs.any fun r ↦ decide (r.1 ≤ c.toNat) && decide (c.toNat ≤ r.2)

/-- A character is in a class exactly when some range surrounds its code point. -/
theorem contains_iff {rs : Ranges} {c : Char} :
    rs.contains c = true ↔ ∃ r ∈ rs, r.1 ≤ c.toNat ∧ c.toNat ≤ r.2 := by
  simp [contains]

end Ranges
end DecimalMachine.Text
