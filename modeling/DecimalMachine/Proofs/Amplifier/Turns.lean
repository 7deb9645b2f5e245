import DecimalMachine.Proofs.Machine.Idle
import DecimalMachine.Proofs.Machine.Resumption

/-!
# Taking turns

A chain that passes a signal on is told as a list of turns. Every machine has its share of the
turns: seen from the machine, these are inputs that it was fed one by one, each answered by one
output. So what a machine of a chain ends as is what it would end as alone, with its share of the
inputs.
-/

namespace DecimalMachine

/-- The elements that fall to one of so many who take turns, if it is so many places before the turn
of that one. -/
def share {α : Type} (size : Nat) : Nat → List α → List α
  | _, [] => []
  | 0, x :: xs => x :: share size (size - 1) xs
  | before + 1, _ :: xs => share size before xs

/-! ### Shares -/

private theorem getElem?_share {α : Type} {size : Nat} (positive : 0 < size) (before i : Nat)
    (xs : List α) : (share size before xs)[i]? = xs[before + i * size]? := by
  induction xs generalizing before i with
  | nil => simp [share]
  | cons x xs ih =>
    cases before with
    | succ before => rw [share, ih, Nat.add_right_comm, List.getElem?_cons_succ]
    | zero =>
      cases i with
      | zero => simp [share]
      | succ i =>
        have place : 0 + (i + 1) * size = size - 1 + i * size + 1 := by
          rw [Nat.succ_mul]
          omega
        rw [share, List.getElem?_cons_succ, ih, place, List.getElem?_cons_succ]

/-- The share of images is the image of the share. -/
theorem share_map {α β : Type} (f : α → β) (size before : Nat) (xs : List α) :
    share size before (xs.map f) = (share size before xs).map f := by
  induction xs generalizing before with
  | nil => rfl
  | cons x xs ih => cases before <;> simp [share, ih]

/-- After a last place comes a first one. -/
theorem succ_mod {size : Nat} (positive : 0 < size) (i : Nat) :
    (i + 1) % size = if i % size = size - 1 then 0 else i % size + 1 := by
  have below := Nat.mod_lt i positive
  rw [← Nat.mod_add_mod]
  split
  · next last => rw [last, Nat.sub_add_cancel positive, Nat.mod_self]
  · next inner => exact Nat.mod_eq_of_lt (by omega)

/-- One more element falls to the one whose turn it is. -/
theorem share_append_singleton {α : Type} {size before : Nat} (inside : before < size) (x : α)
    (xs : List α) :
    share size before (xs ++ [x]) =
      share size before xs ++ if xs.length % size = before then [x] else [] := by
  induction xs generalizing before with
  | nil =>
    cases before with
    | zero => simp [share]
    | succ before => simp [share]
  | cons y ys ih =>
    have place := succ_mod (by omega : 0 < size) ys.length
    have below := Nat.mod_lt ys.length (by omega : 0 < size)
    rw [List.length_cons, place]
    cases before with
    | zero =>
      rw [List.cons_append, share, share, ih (by omega), List.cons_append]
      by_cases last : ys.length % size = size - 1
      · simp [last]
      · simp [last]
    | succ before =>
      rw [List.cons_append, share, share, ih (by omega)]
      by_cases last : ys.length % size = size - 1
      · rw [if_neg (by omega), if_pos last, if_neg (by omega)]
      · simp [last]

/-- Those whose turn has not come yet have no share. -/
theorem share_of_short {α : Type} {size before : Nat} {xs : List α} (short : xs.length ≤ before) :
    share size before xs = [] := by
  induction xs generalizing before with
  | nil => rw [share]
  | cons x xs ih =>
    rw [List.length_cons] at short
    obtain ⟨before, rfl⟩ := Nat.exists_eq_succ_of_ne_zero (by omega : before ≠ 0)
    rw [share]
    exact ih (by omega)

/-- In whole rounds all shares have the same length. -/
theorem length_share {α : Type} {size before rounds : Nat} (inside : before < size) {xs : List α}
    (whole : xs.length = size * rounds) : (share size before xs).length = rounds := by
  have reaches (i : Nat) : (share size before xs).length ≤ i ↔ rounds ≤ i := by
    rw [← List.getElem?_eq_none_iff, getElem?_share (by omega), List.getElem?_eq_none_iff, whole,
      Nat.mul_comm i]
    constructor
    · intro short
      refine Nat.not_lt.mp fun more ↦ ?_
      have step : size * (i + 1) ≤ size * rounds := Nat.mul_le_mul_left size more
      rw [Nat.mul_succ] at step
      omega
    · intro enough
      have step : size * rounds ≤ size * i := Nat.mul_le_mul_left size enough
      omega
  exact Nat.le_antisymm ((reaches _).mpr (Nat.le_refl _)) ((reaches _).mp (Nat.le_refl _))

/-- In whole rounds where everyone gets what the one before gave, the next share is what this one
gave. -/
theorem share_succ_of_shifted {α : Type} {size before rounds : Nat} {xs ys : List α} {x y : α}
    (inside : before + 1 < size) (whole : xs.length = size * rounds)
    (shifted : xs ++ [y] = x :: ys) : share size (before + 1) xs = share size before ys := by
  have last := share_append_singleton inside y xs
  rw [whole, Nat.mul_mod_right, if_neg (by omega), List.append_nil, shifted, share] at last
  exact last.symm

/-- In whole rounds where everyone gets what the one before gave, the first share is the first
element and then what the last one gave, up to what is given on at the end. -/
theorem share_zero_of_shifted {α : Type} {size rounds : Nat} {xs ys : List α} {x y : α}
    (positive : 0 < size) (whole : xs.length = size * rounds) (shifted : xs ++ [y] = x :: ys) :
    share size 0 xs ++ [y] = x :: share size (size - 1) ys := by
  have last := share_append_singleton positive y xs
  rw [whole, Nat.mul_mod_right, if_pos rfl, shifted, share] at last
  exact last.symm

/-- What is given back at the end is the last of what was given. -/
theorem last_of_returned {xs ys : List Int} {x y : Int} (h : xs ++ [y] = x :: ys)
    (some_ys : ys ≠ []) : xs = x :: ys.take (ys.length - 1) ∧ ys.getLast? = some y := by
  rcases List.eq_nil_or_concat ys with rfl | ⟨zs, z, rfl⟩
  · exact absurd rfl some_ys
  · rw [List.concat_eq_append, ← List.cons_append] at h
    obtain ⟨rfl, last⟩ := List.append_inj' h rfl
    cases last
    simp

/-! ### Turns of one machine -/

/-- What is fed to a machine in its turn, and what it answers. -/
structure Turn where
  fed : Int
  answer : Int

namespace Machine

/-- A run that ends without a fault leads from the first machine to the second. -/
def RunsTo (m n : Machine) : Prop :=
  ∃ allowance r s, m.run allowance = some r ∧ r.result = .ok s ∧ r.machine = n

/-- A machine that is fed takes the input without a fault, puts out one value, and is then the
second machine. -/
def Takes (m : Machine) (t : Turn) (n : Machine) : Prop :=
  ∃ allowance r s, m.feed allowance t.fed = some r ∧ r.result = .ok s ∧ r.machine = n ∧
    n.outputs = m.outputs.push t.answer

/-- The machine takes its turns, one after the other, and is then the second machine. -/
inductive Serves (m : Machine) : List Turn → Machine → Prop
  | nil : Serves m [] m
  | snoc {turns : List Turn} {n k : Machine} {t : Turn} (before : Serves m turns n)
      (last : n.Takes t k) : Serves m (turns ++ [t]) k

/-- A run without a fault ends with a machine at rest. -/
theorem RunsTo.idle {m n : Machine} (runs : m.RunsTo n) : n.Idle := by
  obtain ⟨allowance, r, s, ran, ok, rfl⟩ := runs
  exact idle_of_run ran ok

/-- A machine can end a run without a fault in one way only. -/
theorem RunsTo.unique {m n k : Machine} (runs : m.RunsTo n) (runs' : m.RunsTo k) : n = k := by
  obtain ⟨allowance, r, s, ran, -, rfl⟩ := runs
  obtain ⟨allowance', q, t, ran', -, rfl⟩ := runs'
  rw [run_unique ran ran']

/-- A run that ends without a fault does not fail under another allowance. -/
theorem RunsTo.ne_error {m n : Machine} (runs : m.RunsTo n) {allowance : Nat} {q : Response State}
    {f : Fault} (ran : m.run allowance = some q) : q.result ≠ .error f := by
  obtain ⟨allowance', r, s, ran', ok, -⟩ := runs
  rw [run_unique ran ran', ok]
  exact nofun

private theorem Takes.idle {m n : Machine} {t : Turn} (takes : m.Takes t n) (idle : m.Idle) :
    n.Idle ∧ n.inputs = [] := by
  obtain ⟨allowance, r, s, fed, ok, rfl, -⟩ := takes
  exact idle.feed fed ok

/-- Only a live machine takes a turn. -/
theorem Takes.live {m n : Machine} {t : Turn} (takes : m.Takes t n) : m.Live := by
  obtain ⟨allowance, r, s, fed, ok, -, -⟩ := takes
  exact live_of_feed fed ok

/-- Inputs that are supplied after a run may as well be supplied before it. -/
theorem RunsTo.ends {m n k : Machine} {answer : Except Fault State} {later : List Int}
    (runs : m.RunsTo n) (h : (n.supply later).Ends answer k) :
    (m.supply later).Ends answer k := by
  obtain ⟨allowance, r, s, ran, -, rfl⟩ := runs
  exact ends_supply_run ran h

private theorem Takes.ends {m n k : Machine} {t : Turn} {answer : Except Fault State}
    {later : List Int}
    (takes : m.Takes t n) (h : (n.supply later).Ends answer k) :
    (m.supply (t.fed :: later)).Ends answer k := by
  obtain ⟨allowance, r, s, fed, ok, rfl, -⟩ := takes
  have answers : m.Answers (.feed t.fed) (r.map .state) :=
    answers_feed_iff.mpr ⟨allowance, r, fed, rfl⟩
  have earlier := ends_supply_call answers rfl h
  rw [if_pos (live_of_feed fed ok)] at earlier
  exact earlier

namespace Serves

variable {m n : Machine} {turns : List Turn}

/-- The outputs are those from before, and then one for each turn. -/
theorem outputs (serves : m.Serves turns n) :
    n.outputs.toList = m.outputs.toList ++ turns.map (·.answer) := by
  induction serves with
  | nil => simp
  | snoc _ last ih =>
    obtain ⟨_, _, _, _, _, _, pushed⟩ := last
    rw [pushed, Outputs.toList_push, ih, List.map_append, List.append_assoc]
    rfl

/-- Without any turn the machine is the same. -/
theorem of_nil (serves : m.Serves turns n) (none : turns = []) : n = m := by
  cases serves with
  | nil => rfl
  | snoc _ _ => exact absurd none (List.append_ne_nil_of_right_ne_nil _ (List.cons_ne_nil _ _))

/-- A machine at rest is at rest after its turns, and has used up all inputs if there were any
turns. -/
theorem idle (serves : m.Serves turns n) (idle : m.Idle) :
    n.Idle ∧ (turns ≠ [] → n.inputs = []) := by
  induction serves with
  | nil => exact ⟨idle, fun none ↦ absurd rfl none⟩
  | snoc _ last ih =>
    obtain ⟨resting, empty⟩ := last.idle ih.1
    exact ⟨resting, fun _ ↦ empty⟩

/-- Inputs that are supplied after the turns may as well be supplied before them, behind the inputs
of those turns. -/
theorem ends {k : Machine} {answer : Except Fault State} {later : List Int}
    (serves : m.Serves turns n) (h : (n.supply later).Ends answer k) :
    (m.supply (turns.map (·.fed) ++ later)).Ends answer k := by
  induction serves generalizing later with
  | nil => exact h
  | snoc _ last ih =>
    rw [List.map_append, List.append_assoc]
    exact ih (last.ends h)

end Serves
end Machine
end DecimalMachine
