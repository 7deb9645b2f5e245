/-!
# Windows and slices of a list

Positions count from the start if they are not negative and from the end otherwise; what lies outside
the list is clamped to it. A slice may also skip, or run backwards.
-/

namespace DecimalMachine

/-- A position as a distance from the start, not yet clamped. -/
def fromStart (length : Nat) (i : Int) : Int := if i < 0 then i + length else i

/-- A position as a bound between zero and the length. -/
def bound (length : Nat) (i : Int) : Nat := min (fromStart length i).toNat length

/-- The elements from one position up to but excluding another. -/
def window {α : Type} (start stop : Int) (xs : List α) : List α :=
  (xs.take (bound xs.length stop)).drop (bound xs.length start)

/-- The elements whose distance from the first is a multiple of `k`. -/
def everyNth {α : Type} (k : Nat) (xs : List α) : List α :=
  (xs.zipIdx.filter fun p ↦ p.2 % k == 0).map Prod.fst

/-- Where a slice starts and stops, and how far it steps; each part may be left open. -/
structure Slice where
  start : Option Int
  stop : Option Int
  step : Option Int
  deriving DecidableEq, Repr

namespace Slice

/-- The elements in a slice; a slice that does not move has none to give. -/
def select? {α : Type} (s : Slice) (xs : List α) : Option (List α) :=
  let n := xs.length
  let step := s.step.getD 1
  if step = 0 then none
  else if 0 < step then
    let low := s.start.elim 0 (bound n)
    let high := s.stop.elim n (bound n)
    some (everyNth step.toNat ((xs.take high).drop low))
  else
    let after (i : Int) : Nat := min (fromStart n i + 1).toNat n
    let low := s.stop.elim 0 after
    let high := s.start.elim n after
    some (everyNth step.natAbs ((xs.take high).drop low).reverse)

end Slice

/-- A natural position inside the list is its own bound. -/
theorem bound_natCast {length i : Nat} (h : i ≤ length) : bound length i = i := by
  have : ¬(i : Int) < 0 := by omega
  rw [bound, fromStart, if_neg this]
  omega

/-- Every first element is every element. -/
theorem everyNth_one {α : Type} (xs : List α) : everyNth 1 xs = xs := by
  have all : (xs.zipIdx.filter fun p ↦ p.2 % 1 == 0) = xs.zipIdx := by
    simp [Nat.mod_one]
  rw [everyNth, all, List.zipIdx_map_fst]

end DecimalMachine
