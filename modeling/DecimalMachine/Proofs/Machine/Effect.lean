import DecimalMachine.Machine.Step

/-!
# What an effect says about its instruction

An effect is only ever given out by instructions of its own kind, after all their checks. The laws
here read the checks off the effect, so that no later proof goes through the instructions again.
-/

namespace DecimalMachine.Instruction

private theorem bind_eq_ok {α β : Type} {x : Except Fault α} {f : α → Except Fault β} {b : β}
    (h : x >>= f = .ok b) : ∃ a, x = .ok a ∧ f a = .ok b := by
  cases x with
  | error e => cases h
  | ok a => exact ⟨a, rfl, h⟩

/-- A destination is an address with a cell, given as an address. -/
theorem destination_eq_ok_iff {i : Instruction} {m : Memory} {k : Nat} {a : Int} :
    i.destination m k = .ok a ↔
      i.mode k = .position ∧ m.contains a = true ∧ a = i.operand k := by
  unfold destination
  split
  · next hm =>
    split
    · next inside =>
      simp only [hm, Except.ok.injEq, true_and]
      constructor
      · rintro rfl
        exact ⟨inside, rfl⟩
      · rintro ⟨-, rfl⟩
        rfl
    · next outside =>
      simp only [hm, reduceCtorEq, true_and, false_iff]
      rintro ⟨inside, rfl⟩
      exact outside inside
  · next hm => simp [hm]
  · next hm => simp [hm]

/-- Two sources and a destination are needed to combine values. -/
theorem combine_eq_ok {i : Instruction} {m : Memory} {f : Int → Int → Int} {e : Effect Int}
    (h : i.combine m f = .ok e) :
    ∃ x y a, i.source m 0 = .ok x ∧ i.source m 1 = .ok y ∧ i.destination m 2 = .ok a ∧
      e = .store a (f x y) := by
  obtain ⟨x, hx, h⟩ := bind_eq_ok h
  obtain ⟨y, hy, h⟩ := bind_eq_ok h
  obtain ⟨a, ha, h⟩ := bind_eq_ok h
  exact ⟨x, y, a, hx, hy, ha, (Except.ok.inj h).symm⟩

/-- A jump needs its value and its target, and a target not below zero if it is taken. -/
theorem branch_eq_ok {i : Instruction} {m : Memory} {test : Int → Bool} {e : Effect Int}
    (h : i.branch m test = .ok e) :
    ∃ x t, i.source m 0 = .ok x ∧ i.source m 1 = .ok t ∧
      (test x = true ∧ 0 ≤ t ∧ e = .jump t ∨ test x = false ∧ e = .pass) := by
  obtain ⟨x, hx, h⟩ := bind_eq_ok h
  obtain ⟨t, ht, h⟩ := bind_eq_ok h
  refine ⟨x, t, hx, ht, ?_⟩
  cases taken : test x with
  | false =>
    rw [taken] at h
    exact .inr ⟨rfl, (Except.ok.inj h).symm⟩
  | true =>
    rw [taken, if_pos rfl] at h
    split at h
    · cases h
    · next below => exact .inl ⟨rfl, Int.not_lt.mp below, (Except.ok.inj h).symm⟩

/-- What has to hold of an instruction, a memory and the inputs for an effect to be given out. -/
def Warrants (i : Instruction) (m : Memory) (inputs : List Int) : Effect Int → Prop
  | .store a _ => i.operation.arity = 3 ∧ m.contains a = true
  | .take a v => i.operation = .input ∧ m.contains a = true ∧ ∃ rest, inputs = v :: rest
  | .emit v => i.operation = .output ∧ i.source m 0 = .ok v
  | .jump t => (i.operation = .jumpIfTrue ∨ i.operation = .jumpIfFalse) ∧ 0 ≤ t
  | .pass => i.operation = .jumpIfTrue ∨ i.operation = .jumpIfFalse
  | .suspend => i.operation = .input ∧ inputs = []
  | .halt => i.operation = .halt

private theorem warrants_of_combine {i : Instruction} {m : Memory} {inputs : List Int}
    {f : Int → Int → Int} {e : Effect Int} (three : i.operation.arity = 3)
    (h : i.combine m f = .ok e) : i.Warrants m inputs e := by
  obtain ⟨x, y, a, -, -, ha, rfl⟩ := combine_eq_ok h
  exact ⟨three, (destination_eq_ok_iff.mp ha).2.1⟩

private theorem warrants_of_branch {i : Instruction} {m : Memory} {inputs : List Int}
    {test : Int → Bool} {e : Effect Int}
    (jumps : i.operation = .jumpIfTrue ∨ i.operation = .jumpIfFalse)
    (h : i.branch m test = .ok e) : i.Warrants m inputs e := by
  obtain ⟨x, t, -, -, ⟨-, nonneg, rfl⟩ | ⟨-, rfl⟩⟩ := branch_eq_ok h
  · exact ⟨jumps, nonneg⟩
  · exact jumps

/-- An effect that is given out is warranted. -/
theorem warrants_of_effect {i : Instruction} {m : Memory} {inputs : List Int} {e : Effect Int}
    (h : i.effect m inputs = .ok e) : i.Warrants m inputs e := by
  unfold effect at h
  split at h
  · next ho => exact warrants_of_combine (by rw [ho]; rfl) h
  · next ho => exact warrants_of_combine (by rw [ho]; rfl) h
  · next ho => exact warrants_of_combine (by rw [ho]; rfl) h
  · next ho => exact warrants_of_combine (by rw [ho]; rfl) h
  · next ho =>
    split at h
    · cases h
      exact ⟨ho, rfl⟩
    · next v rest =>
      cases hd : i.destination m 0 with
      | error f =>
        rw [hd] at h
        cases h
      | ok a =>
        rw [hd] at h
        cases h
        exact ⟨ho, (destination_eq_ok_iff.mp hd).2.1, rest, rfl⟩
  · next ho =>
    cases hs : i.source m 0 with
    | error f =>
      rw [hs] at h
      cases h
    | ok v =>
      rw [hs] at h
      cases h
      exact ⟨ho, hs⟩
  · next ho => exact warrants_of_branch (.inl ho) h
  · next ho => exact warrants_of_branch (.inr ho) h
  · next ho =>
    cases h
    exact ho

/-- Only an instruction that finds no input to read suspends. -/
theorem effect_eq_suspend_iff {i : Instruction} {m : Memory} {inputs : List Int} :
    i.effect m inputs = .ok .suspend ↔ i.operation = .input ∧ inputs = [] := by
  constructor
  · exact warrants_of_effect
  · rintro ⟨ho, rfl⟩
    simp only [effect, ho]

/-- Inputs that come later make no difference to an instruction that has enough of them. -/
theorem effect_append {i : Instruction} {m : Memory} {inputs : List Int} (later : List Int)
    (h : i.effect m inputs ≠ .ok .suspend) :
    i.effect m (inputs ++ later) = i.effect m inputs := by
  unfold effect at h ⊢
  cases ho : i.operation with
  | input =>
    cases inputs with
    | nil => simp only [ho, ne_eq, not_true_eq_false] at h
    | cons v rest => rfl
  | _ => rfl

end DecimalMachine.Instruction
