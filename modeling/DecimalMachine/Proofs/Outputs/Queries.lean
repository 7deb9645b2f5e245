import DecimalMachine.Outputs

/-!
# Questions about the same outputs

The questions that can be asked of outputs are answered in different ways: a position is clamped at
neither end, a slice at both, and a value is looked for from a start that is clamped at the front only.
The answers fit together all the same.
-/

namespace DecimalMachine

/-- A position is one of those from a start on and before a stop. Both count from the end if they are
below zero, and both are clamped; without a stop all positions up to the end are meant. -/
def Between (length : Nat) (start : Int) (stop : Option Int) (k : Nat) : Prop :=
  bound length start ≤ k ∧ k < stop.elim length (bound length)

/-- A position is the first of a value between a start and a stop. -/
structure FirstBetween (values : List Int) (v start : Int) (stop : Option Int) (k : Nat) : Prop where
  there : values[k]? = some v
  between : Between values.length start stop k
  least : ∀ j < k, Between values.length start stop j → values[j]? ≠ some v

/-- What comes of asking for one position after the other, until one holds the value, or is the stop, or
has no answer. -/
inductive Probes (answer : Outputs.Query → Except Outputs.QueryFault Outputs.Answer) (v : Int)
    (stop : Option Int) : Nat → Except Outputs.QueryFault Outputs.Answer → Prop
  | stopped {k : Nat} (reached : ∃ s ∈ stop, s ≤ k) : Probes answer v stop k (.error .absent)
  | ended {k : Nat} {f : Outputs.QueryFault} (outside : answer (.get k) = .error f) :
      Probes answer v stop k (.error .absent)
  | found {k : Nat} (ahead : ∀ s ∈ stop, (k : Int) < s)
      (here : answer (.get k) = .ok (.number v)) : Probes answer v stop k (.ok (.number k))
  | other {k : Nat} {w : Int} {r : Except Outputs.QueryFault Outputs.Answer}
      (ahead : ∀ s ∈ stop, (k : Int) < s) (here : answer (.get k) = .ok (.number w))
      (differs : w ≠ v) (further : Probes answer v stop (k + 1) r) : Probes answer v stop k r

/-- Answers to questions about the same values, however the questions are put. -/
structure Consistent (values : List Int)
    (answer : Outputs.Query → Except Outputs.QueryFault Outputs.Answer) : Prop where
  /-- A value is found between a start and a stop, at its first position there, exactly if the slice
  between them has it. -/
  found : ∀ v start stop, ∃ xs, answer (.slice ⟨some start, stop, none⟩) = .ok (.values xs) ∧
    (v ∈ xs → ∃ k : Nat, answer (.index v start stop) = .ok (.number k) ∧
      FirstBetween values v start stop k) ∧
    (v ∉ xs → answer (.index v start stop) = .error .absent)
  /-- A value is found by asking for single positions, if these can be large enough. -/
  probed : values.length ≤ 0x8000000000000000 → ∀ v start stop,
    Probes answer v (stop.map (fromStart values.length)) (fromStart values.length start).toNat
      (answer (.index v start stop))
  /-- A value is among the outputs if it is counted there, and if it is found there. -/
  member : ∀ v, ∃ n : Nat, answer (.count v) = .ok (.number n) ∧
    answer (.contains v) = .ok (.truth (decide (0 < n))) ∧
      (0 < n ↔ ∃ k, answer (.index v 0 none) = .ok (.number k))
  /-- The outputs can be parted anywhere. -/
  parted : ∀ i, ∃ front back, answer (.slice ⟨none, some i, none⟩) = .ok (.values front) ∧
    answer (.slice ⟨some i, none, none⟩) = .ok (.values back) ∧ front ++ back = values
  backwards : answer (.slice ⟨none, none, some (-1)⟩) = .ok (.values values.reverse) ∧
    answer .reversed = .ok (.values values.reverse)
  /-- The latest output is the first from the end. -/
  latest : ∀ v, answer .last = .ok (.perhaps (some v)) ↔ answer (.get (-1)) = .ok (.number v)
  /-- Only if there are no outputs there is no latest one. -/
  silent : answer .last = .ok (.perhaps none) ↔ values = []

/-! ### Slices -/

private theorem Slice.select?_forward {α : Type} (xs : List α) (start stop : Option Int) :
    select? ⟨start, stop, none⟩ xs =
      some ((xs.take (stop.elim xs.length (bound xs.length))).drop
        (start.elim 0 (bound xs.length))) := by
  have steps : ¬(none : Option Int).getD 1 = 0 ∧ 0 < (none : Option Int).getD 1 := by decide
  simp only [select?, if_neg steps.1, if_pos steps.2]
  exact congrArg some (everyNth_one _)

private theorem Slice.select?_backwards {α : Type} (xs : List α) :
    select? ⟨none, none, some (-1)⟩ xs = some xs.reverse := by
  have steps : ¬(some (-1) : Option Int).getD 1 = 0 ∧ ¬0 < (some (-1) : Option Int).getD 1 := by
    decide
  simp only [select?, if_neg steps.1, if_neg steps.2, Option.elim_none, List.take_length,
    List.drop_zero]
  exact congrArg some (everyNth_one _)

/-- The values of a slice are those at the positions between its start and its stop. -/
theorem mem_slice_iff {xs : List Int} {v start : Int} {stop : Option Int} :
    v ∈ (xs.take (stop.elim xs.length (bound xs.length))).drop (bound xs.length start) ↔
      ∃ k, Between xs.length start stop k ∧ xs[k]? = some v := by
  rw [List.mem_iff_getElem?]
  constructor
  · intro ⟨j, there⟩
    rw [List.getElem?_drop, List.getElem?_take] at there
    split at there
    · next before => exact ⟨_, ⟨Nat.le_add_right _ j, before⟩, there⟩
    · cases there
  · intro ⟨k, ⟨low, high⟩, there⟩
    refine ⟨k - bound xs.length start, ?_⟩
    rw [List.getElem?_drop, List.getElem?_take, Nat.add_sub_cancel' low, if_pos high, there]

/-! ### Searches -/

private theorem find?_zipIdx_eq_some_iff {α : Type} {xs : List α} {p : α × Nat → Bool} {a : α}
    {k : Nat} :
    xs.zipIdx.find? p = some (a, k) ↔
      xs[k]? = some a ∧ p (a, k) = true ∧ ∀ j < k, ∀ b, xs[j]? = some b → p (b, j) = false := by
  rw [List.find?_eq_some_iff_getElem]
  constructor
  · intro ⟨has, i, inside, here, before⟩
    rw [List.getElem_zipIdx, Prod.mk.injEq] at here
    obtain ⟨here, place⟩ := here
    obtain rfl : i = k := by omega
    rw [List.length_zipIdx] at inside
    refine ⟨List.getElem?_eq_some_iff.mpr ⟨inside, here⟩, has, ?_⟩
    intro j earlier b there
    obtain ⟨_, rfl⟩ := List.getElem?_eq_some_iff.mp there
    simpa using before j earlier
  · intro ⟨here, has, before⟩
    obtain ⟨inside, rfl⟩ := List.getElem?_eq_some_iff.mp here
    refine ⟨has, k, by rw [List.length_zipIdx]; exact inside, by simp, ?_⟩
    intro j earlier
    have there := before j earlier xs[j] (List.getElem?_eq_getElem (by omega))
    simpa using there

namespace Outputs

variable {o : Outputs} {v start : Int} {stop : Option Int}

private theorem between_iff {k : Nat} (inside : k < o.size) :
    Between o.size start stop k ↔
      max (fromStart o.size start) 0 ≤ k ∧ ∀ s ∈ stop, (k : Int) < fromStart o.size s := by
  unfold Between bound
  cases stop with
  | none =>
    rw [Option.elim_none]
    simp
    omega
  | some s =>
    rw [Option.elim_some]
    simp
    omega

/-- Whether a value at a position is what a search looks for. -/
def searched (o : Outputs) (v start : Int) (stop : Option Int) (p : Int × Nat) : Bool :=
  decide (max (fromStart o.size start) 0 ≤ p.2) &&
    (stop.all fun s ↦ decide ((p.2 : Int) < fromStart o.size s)) && p.1 == v

private theorem index_eq (o : Outputs) (v start : Int) (stop : Option Int) :
    o.index v start stop =
      match o.toList.zipIdx.find? (o.searched v start stop) with
      | some p => .ok p.2
      | none => .error .absent := rfl

/-- A search looks for the value between its start and its stop. -/
theorem searched_iff {w : Int} {k : Nat} (there : o.toList[k]? = some w) :
    o.searched v start stop (w, k) = true ↔
      Between o.toList.length start stop k ∧ o.toList[k]? = some v := by
  have inside := (List.getElem?_eq_some_iff.mp there).1
  rw [length_toList] at inside
  rw [length_toList, between_iff inside, there]
  simp [searched, Option.all_eq_true]

/-- A search finds the first position of the value between its start and its stop. -/
theorem index_eq_ok_iff {k : Nat} :
    o.index v start stop = .ok k ↔ FirstBetween o.toList v start stop k := by
  rw [index_eq]
  constructor
  · intro answered
    cases found : o.toList.zipIdx.find? (o.searched v start stop) with
    | none =>
      rw [found] at answered
      cases answered
    | some p =>
      obtain ⟨w, j⟩ := p
      rw [found] at answered
      cases answered
      obtain ⟨there, suits, before⟩ := find?_zipIdx_eq_some_iff.mp found
      obtain ⟨between, here⟩ := (searched_iff there).mp suits
      refine ⟨here, between, ?_⟩
      intro j earlier among same
      have passed := before j earlier v same
      rw [(searched_iff same).mpr ⟨among, same⟩] at passed
      cases passed
  · intro first
    have found : o.toList.zipIdx.find? (o.searched v start stop) = some (v, k) := by
      rw [find?_zipIdx_eq_some_iff]
      refine ⟨first.there, (searched_iff first.there).mpr ⟨first.between, first.there⟩, ?_⟩
      intro j earlier w other
      rw [← Bool.not_eq_true, searched_iff other]
      intro ⟨among, same⟩
      exact first.least j earlier among same
    rw [found]

/-- A value that is at no position between start and stop is absent, and nothing else can go wrong. -/
theorem index_eq_error_iff {f : QueryFault} :
    o.index v start stop = .error f ↔
      f = .absent ∧ ∀ k, Between o.toList.length start stop k → o.toList[k]? ≠ some v := by
  have missed : o.toList.zipIdx.find? (o.searched v start stop) = none ↔
      ∀ k, Between o.toList.length start stop k → o.toList[k]? ≠ some v := by
    rw [List.find?_eq_none]
    constructor
    · intro none k among same
      have there : (v, k) ∈ o.toList.zipIdx := List.mk_mem_zipIdx_iff_getElem?.mpr same
      exact none (v, k) there ((searched_iff same).mpr ⟨among, same⟩)
    · intro nowhere p there suits
      have here := List.mem_zipIdx_iff_getElem?.mp there
      obtain ⟨among, same⟩ := (searched_iff here).mp suits
      exact nowhere p.2 among same
  rw [← missed, index_eq]
  cases o.toList.zipIdx.find? (o.searched v start stop) with
  | none => simp [eq_comm]
  | some p => simp

/-- A search succeeds exactly if the value is in the slice between its start and its stop. -/
theorem index_succeeds_iff :
    (∃ k, o.index v start stop = .ok k) ↔
      ∃ k, Between o.toList.length start stop k ∧ o.toList[k]? = some v := by
  constructor
  · intro ⟨k, found⟩
    have first := index_eq_ok_iff.mp found
    exact ⟨k, first.between, first.there⟩
  · intro ⟨k, among, same⟩
    cases answered : o.index v start stop with
    | ok j => exact ⟨j, rfl⟩
    | error f => exact absurd same ((index_eq_error_iff.mp answered).2 k among)

/-! ### Single positions -/

private theorem get_natCast (fits : o.size ≤ 0x8000000000000000) {k : Nat} {w : Int} :
    o.get k = .ok w ↔ o.toList[k]? = some w := by
  have front : fromStart o.size k = k := by
    rw [fromStart, if_neg (by omega)]
  rw [get, toList, Array.getElem?_toList]
  by_cases small : fitsIndex k = true
  · rw [if_neg (by simp [small])]
    simp only [front, if_pos (Int.natCast_nonneg k), Int.toNat_natCast]
    cases o.values[k]? with
    | none => simp
    | some x => simp
  · rw [if_pos small]
    have outside : o.values.size ≤ k := by
      simp only [fitsIndex, decide_eq_true_iff] at small
      unfold size at fits
      omega
    simp [Array.getElem?_eq_none outside]

private theorem get_neg_one {w : Int} : o.get (-1) = .ok w ↔ o.last? = some w := by
  have small : fitsIndex (-1) = true := by decide
  have back : fromStart o.size (-1) = o.size - 1 := by
    rw [fromStart, if_pos (by omega)]
    omega
  rw [get, if_neg (by simp [small]), last?, Array.back?]
  simp only [back]
  by_cases some_yet : 0 < o.size
  · have place : ((o.size : Int) - 1).toNat = o.values.size - 1 := by
      unfold size
      omega
    rw [if_pos (by omega), place]
    cases o.values[o.values.size - 1]? with
    | none => simp
    | some x => simp
  · have outside : o.values.size ≤ o.values.size - 1 := by
      unfold size at some_yet
      omega
    rw [if_neg (by omega)]
    simp [Array.getElem?_eq_none outside]

/-! ### Probing -/

private theorem index_of_missed {k : Nat}
    (before : ∀ j < k, Between o.toList.length start stop j → o.toList[j]? ≠ some v)
    (missed : ∀ j, k ≤ j → Between o.toList.length start stop j → o.toList[j]? ≠ some v) :
    o.index v start stop = .error .absent := by
  rw [index_eq_error_iff]
  refine ⟨rfl, ?_⟩
  intro j among
  rcases Nat.lt_or_ge j k with earlier | later
  · exact before j earlier among
  · exact missed j later among

private theorem probes_at_end (fits : o.size ≤ 0x8000000000000000) {k : Nat} (last : o.size ≤ k)
    (before : ∀ j < k, Between o.toList.length start stop j → o.toList[j]? ≠ some v) :
    Probes o.ask v (stop.map (fromStart o.size)) k (o.ask (.index v start stop)) := by
  have outside (j : Nat) (later : k ≤ j) : o.toList[j]? = none := by
    rw [List.getElem?_eq_none_iff, length_toList]
    omega
  rw [ask, index_of_missed before fun j later _ ↦ by rw [outside j later]; exact nofun]
  cases look : o.get k with
  | error f =>
    apply Probes.ended
    rw [ask, look]
    rfl
  | ok w =>
    rw [get_natCast fits, outside k (Nat.le_refl k)] at look
    cases look

private theorem probes_at_stop {k : Nat} (reached : ∃ s ∈ stop.map (fromStart o.size), s ≤ k)
    (before : ∀ j < k, Between o.toList.length start stop j → o.toList[j]? ≠ some v) :
    Probes o.ask v (stop.map (fromStart o.size)) k (o.ask (.index v start stop)) := by
  rw [ask, index_of_missed before]
  · exact .stopped reached
  · intro j later among same
    have inside := (List.getElem?_eq_some_iff.mp same).1
    rw [length_toList] at inside among
    obtain ⟨s, hs, le⟩ := reached
    obtain ⟨t, ht, rfl⟩ := Option.map_eq_some_iff.mp hs
    have := ((between_iff inside).mp among).2 t ht
    omega

private theorem between_of_ahead {k : Nat} (inside : k < o.size)
    (low : max (fromStart o.size start) 0 ≤ k)
    (ahead : ∀ s ∈ stop.map (fromStart o.size), (k : Int) < s) :
    Between o.toList.length start stop k := by
  rw [length_toList, between_iff inside]
  refine ⟨low, ?_⟩
  intro s hs
  exact ahead _ (Option.mem_map_of_mem _ hs)

private theorem probes_from (fits : o.size ≤ 0x8000000000000000) {k : Nat}
    (low : max (fromStart o.size start) 0 ≤ k)
    (before : ∀ j < k, Between o.toList.length start stop j → o.toList[j]? ≠ some v) :
    Probes o.ask v (stop.map (fromStart o.size)) k (o.ask (.index v start stop)) := by
  -- Every position probed leaves one less to look at.
  induction left : o.size - k generalizing k with
  | zero => exact probes_at_end fits (by omega) before
  | succ n ih =>
    by_cases reached : ∃ s ∈ stop.map (fromStart o.size), s ≤ k
    · exact probes_at_stop reached before
    · have inside : k < o.size := by omega
      have ahead : ∀ s ∈ stop.map (fromStart o.size), (k : Int) < s :=
        fun s hs ↦ Int.not_le.mp fun le ↦ reached ⟨s, hs, le⟩
      obtain ⟨w, there⟩ : ∃ w, o.toList[k]? = some w := by
        rw [← length_toList] at inside
        exact ⟨_, List.getElem?_eq_getElem inside⟩
      have look : o.ask (.get k) = .ok (.number w) := by
        rw [ask, (get_natCast fits).mpr there]
        rfl
      by_cases same : w = v
      · rw [same] at there look
        rw [ask, index_eq_ok_iff.mpr ⟨there, between_of_ahead inside low ahead, before⟩]
        exact .found ahead look
      · apply Probes.other ahead look same
        apply ih
        · omega
        · intro j earlier between found
          rcases Nat.lt_succ_iff_lt_or_eq.mp earlier with earlier | rfl
          · exact before j earlier between found
          · exact same (Option.some.inj (there.symm.trans found))
        · omega

/-- A search probes one position after the other, from its start on. -/
theorem probes_index (fits : o.size ≤ 0x8000000000000000) (v start : Int) (stop : Option Int) :
    Probes o.ask v (stop.map (fromStart o.size)) (fromStart o.size start).toNat
      (o.ask (.index v start stop)) := by
  apply probes_from fits
  · omega
  · intro j earlier among same
    have inside := (List.getElem?_eq_some_iff.mp same).1
    rw [length_toList] at inside among
    have := ((between_iff inside).mp among).1
    omega

/-! ### Answers -/

private theorem ask_forward (o : Outputs) (start stop : Option Int) :
    o.ask (.slice ⟨start, stop, none⟩) =
      .ok (.values ((o.toList.take (stop.elim o.toList.length (bound o.toList.length))).drop
        (start.elim 0 (bound o.toList.length)))) := by
  simp only [ask, slice, Slice.select?_forward]
  rfl

private theorem ask_index_iff {k : Int} :
    o.ask (.index v start stop) = .ok (.number k) ↔
      ∃ j : Nat, k = j ∧ o.index v start stop = .ok j := by
  rw [ask]
  cases o.index v start stop with
  | error f => simp [Functor.map, Except.map]
  | ok j => simp [Functor.map, Except.map, eq_comm]

private theorem between_all {length k : Nat} (inside : k < length) : Between length 0 none k := by
  refine ⟨?_, inside⟩
  rw [bound, fromStart, if_neg (by omega)]
  omega

/-- A value is counted exactly if it is found. -/
theorem count_pos_iff : 0 < o.toList.count v ↔ ∃ k, o.ask (.index v 0 none) = .ok (.number k) := by
  rw [List.count_pos_iff, List.mem_iff_getElem?]
  constructor
  · intro ⟨j, there⟩
    have among := between_all (List.getElem?_eq_some_iff.mp there).1
    obtain ⟨k, found⟩ := index_succeeds_iff.mpr ⟨j, among, there⟩
    exact ⟨k, ask_index_iff.mpr ⟨k, rfl, found⟩⟩
  · intro ⟨k, answered⟩
    obtain ⟨j, -, found⟩ := ask_index_iff.mp answered
    exact ⟨j, (index_eq_ok_iff.mp found).there⟩

/-- Questions about outputs have consistent answers. -/
theorem consistent_ask (o : Outputs) : Consistent o.toList o.ask where
  found := by
    intro v start stop
    refine ⟨_, o.ask_forward (some start) stop, ?_, ?_⟩
    · intro inside
      obtain ⟨k, found⟩ := index_succeeds_iff.mpr (mem_slice_iff.mp inside)
      exact ⟨k, ask_index_iff.mpr ⟨k, rfl, found⟩, index_eq_ok_iff.mp found⟩
    · intro outside
      have missed : o.index v start stop = .error .absent := by
        rw [index_eq_error_iff]
        refine ⟨rfl, ?_⟩
        intro k among same
        exact outside (mem_slice_iff.mpr ⟨k, among, same⟩)
      rw [ask, missed]
      rfl
  probed := by
    rw [length_toList]
    intro fits v start stop
    exact probes_index fits v start stop
  member := by
    intro v
    refine ⟨o.toList.count v, rfl, ?_, count_pos_iff⟩
    rw [ask, List.contains_eq_mem, decide_eq_decide.mpr List.count_pos_iff.symm]
  parted := by
    intro i
    refine ⟨_, _, o.ask_forward none (some i), o.ask_forward (some i) none, ?_⟩
    rw [Option.elim_none, Option.elim_some, Option.elim_none, Option.elim_some, List.drop_zero,
      List.take_length, List.take_append_drop]
  backwards := by
    refine ⟨?_, rfl⟩
    simp only [ask, slice, Slice.select?_backwards]
    rfl
  latest := by
    intro v
    rw [ask, ask, Except.ok.injEq, Answer.perhaps.injEq, ← get_neg_one]
    cases o.get (-1) with
    | error f => simp [Except.map]
    | ok w => simp [Except.map]
  silent := by
    rw [ask, last?_eq, ← List.getLast?_eq_none_iff]
    simp

end Outputs
end DecimalMachine
