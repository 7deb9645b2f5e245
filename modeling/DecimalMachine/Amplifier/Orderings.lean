/-!
# Orderings

All orderings of a list, by position: elements that are equal still stand at positions of their own.
The orderings come in the lexicographic order of the positions they take the elements from. There are
too many of them to be kept: a loop over them builds each only when it is due, and
`foldOrderings_eq` says that it is a loop over the list of them all.
-/

namespace DecimalMachine

/-- Each element of a list together with the others, in order of the element picked. -/
def picks {α : Type} : List α → List (α × List α)
  | [] => []
  | x :: xs => (x, xs) :: (picks xs).map fun p ↦ (p.1, x :: p.2)

/-- The ways to pick so many elements one after the other. -/
def arrangements {α : Type} : Nat → List α → List (List α)
  | 0, _ => [[]]
  | n + 1, xs => (picks xs).flatMap fun p ↦ (arrangements n p.2).map (p.1 :: ·)

/-- The orderings of a list. -/
def orderings {α : Type} (xs : List α) : List (List α) := arrangements xs.length xs

/-- A loop over the arrangements in their order, which need not all be built. The elements picked so far
come first, the latest at the head. -/
def foldArrangements {α σ ε : Type} (f : σ → List α → Except ε σ) :
    Nat → List α → List α → σ → Except ε σ
  | 0, picked, _, s => f s picked.reverse
  | n + 1, picked, xs, s =>
    (picks xs).foldlM (fun s p ↦ foldArrangements f n (p.1 :: picked) p.2 s) s

/-- A loop over the orderings in their order, which ends with the first failure. -/
def foldOrderings {α σ ε : Type} (f : σ → List α → Except ε σ) (xs : List α) (s : σ) :
    Except ε σ :=
  foldArrangements f xs.length [] xs s

/-- A pick and what it leaves are the whole list. -/
theorem perm_of_mem_picks {α : Type} {xs : List α} {p : α × List α} (h : p ∈ picks xs) :
    List.Perm (p.1 :: p.2) xs := by
  induction xs generalizing p with
  | nil => simp [picks] at h
  | cons x xs ih =>
    rcases List.mem_cons.mp h with rfl | h
    · exact List.Perm.refl _
    · obtain ⟨q, hq, rfl⟩ := List.mem_map.mp h
      exact (List.Perm.swap x q.1 q.2).trans ((ih hq).cons x)

/-- Every ordering holds the elements of the list, each as often. -/
theorem perm_of_mem_orderings {α : Type} {xs o : List α} (h : o ∈ orderings xs) :
    List.Perm o xs := by
  suffices all : ∀ n (xs o : List α), xs.length = n → o ∈ arrangements n xs → List.Perm o xs from
    all xs.length xs o rfl h
  intro n
  induction n with
  | zero =>
    intro xs o hn ho
    rw [List.length_eq_zero_iff.mp hn]
    simp [arrangements] at ho
    rw [ho]
  | succ n ih =>
    intro xs o hn ho
    obtain ⟨p, hp, ho⟩ := List.mem_flatMap.mp ho
    obtain ⟨rest, hrest, rfl⟩ := List.mem_map.mp ho
    have whole := perm_of_mem_picks hp
    have hlen : p.2.length = n := by
      have := whole.length_eq
      simp only [List.length_cons] at this
      omega
    exact ((ih p.2 rest hlen hrest).cons p.1).trans whole

private theorem foldlM_flatMap_eq {α β σ ε : Type} (f : σ → β → Except ε σ) (g : α → List β)
    (xs : List α) (s : σ) :
    (xs.flatMap g).foldlM f s = xs.foldlM (fun s x ↦ (g x).foldlM f s) s := by
  induction xs generalizing s with
  | nil => rfl
  | cons x xs ih =>
    rw [List.flatMap_cons, List.foldlM_append, List.foldlM_cons]
    exact bind_congr fun t ↦ ih t

private theorem foldArrangements_eq {α σ ε : Type} (f : σ → List α → Except ε σ) (n : Nat)
    (picked xs : List α) (s : σ) :
    foldArrangements f n picked xs s =
      (arrangements n xs).foldlM (fun s o ↦ f s (picked.reverse ++ o)) s := by
  induction n generalizing picked xs s with
  | zero => simp [foldArrangements, arrangements]
  | succ n ih =>
    simp only [foldArrangements, arrangements, foldlM_flatMap_eq, List.foldlM_map, ih,
      List.reverse_cons, List.append_assoc, List.cons_append, List.nil_append]

/-- The loop over orderings is a loop over the list of them. -/
theorem foldOrderings_eq {α σ ε : Type} (f : σ → List α → Except ε σ) (xs : List α) (s : σ) :
    foldOrderings f xs s = (orderings xs).foldlM f s := by
  rw [foldOrderings, foldArrangements_eq]
  rfl

end DecimalMachine
