import DecimalMachine.Amplifier.Orderings
import Mathlib.Data.List.FinRange
import Mathlib.Data.List.Lex
import Mathlib.Data.List.Nodup

/-!
# All orderings, by position

The orderings of a list are all its rearrangements. They are told apart by the positions that their
elements are taken from, and stand in the lexicographic order of these: elements may be equal,
positions are not.
-/

namespace DecimalMachine

variable {α β : Type}

/-! ### Picks -/

private theorem map_fst_picks (xs : List α) : (picks xs).map Prod.fst = xs := by
  induction xs with
  | nil => rfl
  | cons x xs ih =>
    rw [picks, List.map_cons, List.map_map]
    exact congrArg (x :: ·) ih

private theorem exists_pick {x : α} {xs others : List α} (h : (x :: others).Perm xs) :
    ∃ rest, (x, rest) ∈ picks xs ∧ others.Perm rest := by
  have mem : x ∈ (picks xs).map Prod.fst := by
    rw [map_fst_picks]
    exact h.mem_iff.mp List.mem_cons_self
  obtain ⟨⟨y, rest⟩, pick, rfl⟩ := List.mem_map.mp mem
  exact ⟨rest, pick, (h.trans (perm_of_mem_picks pick).symm).cons_inv⟩

private theorem sublist_of_mem_picks {xs : List α} {p : α × List α} (h : p ∈ picks xs) :
    p.2.Sublist xs := by
  induction xs generalizing p with
  | nil => cases h
  | cons x xs ih =>
    rcases List.mem_cons.mp h with rfl | h
    · exact List.sublist_cons_self x xs
    · obtain ⟨q, pick, rfl⟩ := List.mem_map.mp h
      exact (ih pick).cons_cons x

private theorem picks_map (f : α → β) (xs : List α) :
    picks (xs.map f) = (picks xs).map (Prod.map f (List.map f)) := by
  induction xs with
  | nil => rfl
  | cons x xs ih =>
    simp only [List.map_cons, picks, ih, List.map_map]
    rfl

/-! ### Arrangements -/

private theorem arrangements_map (f : α → β) (n : Nat) (xs : List α) :
    arrangements n (xs.map f) = (arrangements n xs).map (List.map f) := by
  induction n generalizing xs with
  | zero => rfl
  | succ n ih =>
    rw [arrangements, arrangements, picks_map, List.flatMap_map, List.map_flatMap]
    refine List.flatMap_congr fun p _ ↦ ?_
    rw [Prod.map_snd, ih, List.map_map, List.map_map]
    rfl

/-- A list whose elements stand in order has its arrangements in lexicographic order. -/
theorem pairwise_arrangements {r : α → α → Prop} (n : Nat) {xs : List α} (sorted : xs.Pairwise r) :
    (arrangements n xs).Pairwise (List.Lex r) := by
  induction n generalizing xs with
  | zero => exact List.pairwise_singleton _ _
  | succ n ih =>
    refine List.pairwise_flatMap.mpr ⟨?_, ?_⟩
    · intro p pick
      have rest := ih (sorted.sublist (sublist_of_mem_picks pick))
      exact List.pairwise_map.mpr (rest.imp .cons)
    · have firsts : (picks xs).Pairwise fun p q ↦ r p.1 q.1 := by
        rw [← List.pairwise_map, map_fst_picks]
        exact sorted
      refine firsts.imp fun {p q} before a from_p b from_q ↦ ?_
      obtain ⟨_, -, rfl⟩ := List.mem_map.mp from_p
      obtain ⟨_, -, rfl⟩ := List.mem_map.mp from_q
      exact .rel before

/-! ### Orderings -/

/-- The orderings of a list are its rearrangements, all of them. -/
theorem mem_orderings_iff {xs o : List α} : o ∈ orderings xs ↔ o.Perm xs := by
  refine ⟨perm_of_mem_orderings, fun perm ↦ ?_⟩
  unfold orderings
  induction o generalizing xs with
  | nil =>
    rw [perm.symm.eq_nil]
    exact List.mem_cons_self
  | cons x others ih =>
    obtain ⟨rest, pick, others_perm⟩ := exists_pick perm
    rw [← perm.length_eq, List.length_cons, others_perm.length_eq]
    refine List.mem_flatMap.mpr ⟨(x, rest), pick, ?_⟩
    exact List.mem_map.mpr ⟨others, ih others_perm, rfl⟩

/-- The first ordering of a list is the list as it is. -/
theorem exists_orderings_eq_cons (xs : List α) : ∃ others, orderings xs = xs :: others := by
  unfold orderings
  induction xs with
  | nil => exact ⟨[], rfl⟩
  | cons x xs ih =>
    obtain ⟨others, first⟩ := ih
    rw [List.length_cons, arrangements, picks, List.flatMap_cons, first]
    exact ⟨_, rfl⟩

/-- Every list has an ordering. -/
theorem orderings_ne_nil (xs : List α) : orderings xs ≠ [] :=
  List.ne_nil_of_mem (mem_orderings_iff.mpr (.refl xs))

/-- The lists are what the elements make up at the rearrangements of their positions, each taken
once, in lexicographic order. -/
def ByPosition (xs : List α) (os : List (List α)) : Prop :=
  ∃ places : List (List (Fin xs.length)),
    places.Pairwise (List.Lex (· < ·)) ∧
      (∀ p, p ∈ places ↔ p.Perm (List.finRange xs.length)) ∧ os = places.map (·.map xs.get)

/-- There is one such list of lists only. -/
theorem ByPosition.unique {xs : List α} {os os' : List (List α)} (h : ByPosition xs os)
    (h' : ByPosition xs os') : os = os' := by
  obtain ⟨places, sorted, all, rfl⟩ := h
  obtain ⟨places', sorted', all', rfl⟩ := h'
  have perm : places.Perm places' :=
    (List.perm_ext_iff_of_nodup sorted.nodup sorted'.nodup).mpr fun p ↦
      (all p).trans (all' p).symm
  rw [perm.eq_of_pairwise (fun p q _ _ one other ↦ absurd other (asymm one)) sorted sorted']

/-- Orderings go by position. -/
theorem orderings_byPosition (xs : List α) : ByPosition xs (orderings xs) := by
  refine ⟨orderings (List.finRange xs.length), ?_, fun p ↦ mem_orderings_iff, ?_⟩
  · exact pairwise_arrangements _ (List.pairwise_lt_finRange _)
  · unfold orderings
    rw [← arrangements_map, List.map_get_finRange, List.length_finRange]

end DecimalMachine
