import DecimalMachine.Amplifier.Search
import DecimalMachine.Proofs.Amplifier.Allowance
import DecimalMachine.Proofs.Amplifier.Orderings

/-!
# The search is exact

A search goes on from ordering to ordering while their chains give signals. It ends with the first
chain that fails, or with the greatest of all signals and the first ordering that gives it. Which
orderings there are depends on the phases only up to rearrangement, so the greatest signal does too.
-/

namespace DecimalMachine

/-- A search gives the best signal or fails, if it stops. -/
def Searches (program : String) (phases : List Int) (feedback : Bool) (signal : Int)
    (answer : Except Chain.Failure Best) : Prop :=
  ∃ allowance events,
    Best.search allowance program phases feedback signal = some (answer, events)

/-- An ordering is attempted if all that come before it give signals. -/
def Attempts (program : String) (feedback : Bool) (signal : Int) (os : List (List Int))
    (o : List Int) : Prop :=
  ∃ before after, os = before ++ o :: after ∧
    ∀ x ∈ before, ∃ v, Amplifies program x feedback signal (.ok v)

namespace Best

/-- Of the orderings that have been tried, all of which give signals, the best is the first one that
gives the greatest signal. -/
structure Leads (program : String) (feedback : Bool) (signal : Int) (tried : List (List Int))
    (b : Best) : Prop where
  gives : Amplifies program b.phases feedback signal (.ok b.signal)
  most : ∀ o ∈ tried, ∃ v, Amplifies program o feedback signal (.ok v) ∧ v ≤ b.signal
  first : ∃ before after, tried = before ++ b.phases :: after ∧
    ∀ o ∈ before, ∃ v, Amplifies program o feedback signal (.ok v) ∧ v < b.signal

/-- The best so far leads; before anything was tried there is none. -/
def Stands (program : String) (feedback : Bool) (signal : Int) (tried : List (List Int)) :
    Option Best → Prop
  | none => tried = []
  | some b => b.Leads program feedback signal tried

end Best

variable {program : String} {feedback : Bool} {signal : Int} {phases o : List Int}
  {os tried : List (List Int)} {b : Best}

/-! ### Attempts -/

private theorem attempts_cons_iff {x : List Int} :
    Attempts program feedback signal (x :: os) o ↔
      o = x ∨ (∃ v, Amplifies program x feedback signal (.ok v)) ∧
        Attempts program feedback signal os o := by
  constructor
  · rintro ⟨before, after, split, give⟩
    cases before with
    | nil =>
      cases split
      exact .inl rfl
    | cons y before =>
      cases split
      obtain ⟨head, tail⟩ := List.forall_mem_cons.mp give
      exact .inr ⟨head, before, after, rfl, tail⟩
  · rintro (rfl | ⟨head, before, after, rfl, tail⟩)
    · exact ⟨[], os, rfl, nofun⟩
    · exact ⟨x :: before, after, rfl, List.forall_mem_cons.mpr ⟨head, tail⟩⟩

private theorem Attempts.mem (h : Attempts program feedback signal os o) : o ∈ os := by
  obtain ⟨before, after, rfl, -⟩ := h
  exact List.mem_append_right before List.mem_cons_self

/-- Only one ordering is attempted and gives no signal. -/
theorem Attempts.unique {o' : List Int} {e e' : Chain.Failure}
    (h : Attempts program feedback signal os o)
    (fails : Amplifies program o feedback signal (.error e))
    (h' : Attempts program feedback signal os o')
    (fails' : Amplifies program o' feedback signal (.error e')) : e = e' := by
  induction os with
  | nil => cases h.mem
  | cons x os ih =>
    rcases attempts_cons_iff.mp h with rfl | ⟨⟨v, gives⟩, later⟩ <;>
      rcases attempts_cons_iff.mp h' with rfl | ⟨⟨v', gives'⟩, later'⟩
    · cases fails.unique fails'
      rfl
    · cases fails.unique gives'
    · cases fails'.unique gives
    · exact ih later later'

namespace Best

/-! ### The lead -/

private theorem Leads.mem (leads : b.Leads program feedback signal tried) : b.phases ∈ tried := by
  obtain ⟨before, after, rfl, -⟩ := leads.first
  exact List.mem_append_right before List.mem_cons_self

private theorem Leads.le {v : Int} (leads : b.Leads program feedback signal tried) (mem : o ∈ tried)
    (gives : Amplifies program o feedback signal (.ok v)) : v ≤ b.signal := by
  obtain ⟨w, gives', least⟩ := leads.most o mem
  cases gives.unique gives'
  exact least

private theorem Leads.first_place (leads : b.Leads program feedback signal tried) :
    ∃ before after, tried = before ++ b.phases :: after ∧ b.phases ∉ before ∧
      ∀ o ∈ before, ∃ v, Amplifies program o feedback signal (.ok v) ∧ v < b.signal := by
  obtain ⟨before, after, split, less⟩ := leads.first
  refine ⟨before, after, split, fun mem ↦ ?_, less⟩
  obtain ⟨v, gives, below⟩ := less _ mem
  cases gives.unique leads.gives
  exact Int.lt_irrefl _ below

private theorem Leads.signal_eq {b' : Best} {tried' : List (List Int)}
    (leads : b.Leads program feedback signal tried)
    (leads' : b'.Leads program feedback signal tried') (same : ∀ o, o ∈ tried ↔ o ∈ tried') :
    b.signal = b'.signal :=
  Int.le_antisymm (leads'.le ((same _).mp leads.mem) leads.gives)
    (leads.le ((same _).mpr leads'.mem) leads'.gives)

private theorem Leads.found (leads : b.Leads program feedback signal tried)
    [DecidablePred fun o ↦ Amplifies program o feedback signal (.ok b.signal)] :
    tried.find? (fun o ↦ Amplifies program o feedback signal (.ok b.signal)) = some b.phases := by
  obtain ⟨before, after, split, less⟩ := leads.first
  refine List.find?_eq_some_iff_append.mpr
    ⟨decide_eq_true leads.gives, before, after, split, fun o mem ↦ ?_⟩
  obtain ⟨v, gives, below⟩ := less o mem
  rw [Bool.not_eq_true', decide_eq_false_iff_not]
  intro again
  cases gives.unique again
  exact Int.lt_irrefl _ below

/-- Only one can lead. -/
theorem Leads.unique {b' : Best} (leads : b.Leads program feedback signal tried)
    (leads' : b'.Leads program feedback signal tried) : b = b' := by
  classical
  obtain ⟨s, ps⟩ := b
  obtain ⟨s', ps'⟩ := b'
  obtain rfl : s = s' := leads.signal_eq leads' fun o ↦ Iff.rfl
  obtain rfl : ps = ps' := Option.some.inj (leads.found.symm.trans leads'.found)
  rfl

private theorem Leads.own (leads : b.Leads program feedback signal (orderings phases)) :
    b.Leads program feedback signal (orderings b.phases) where
  gives := leads.gives
  most o mem := leads.most o <| mem_orderings_iff.mpr <|
    (mem_orderings_iff.mp mem).trans (mem_orderings_iff.mp leads.mem)
  first := by
    obtain ⟨others, split⟩ := exists_orderings_eq_cons b.phases
    exact ⟨[], others, split, nofun⟩

private theorem leads_of_more {v : Int} (gives : Amplifies program o feedback signal (.ok v))
    (more : ∀ x ∈ tried, ∃ w, Amplifies program x feedback signal (.ok w) ∧ w < v) :
    Leads program feedback signal (tried ++ [o]) ⟨v, o⟩ := by
  refine ⟨gives, List.forall_mem_append.mpr ⟨?_, ?_⟩, tried, [], rfl, more⟩
  · intro x mem
    obtain ⟨w, gives', below⟩ := more x mem
    exact ⟨w, gives', Int.le_of_lt below⟩
  · exact List.forall_mem_singleton.mpr ⟨v, gives, Int.le_refl v⟩

private theorem Leads.keeps {v : Int} (leads : b.Leads program feedback signal tried)
    (gives : Amplifies program o feedback signal (.ok v)) (least : v ≤ b.signal) :
    b.Leads program feedback signal (tried ++ [o]) := by
  obtain ⟨before, after, rfl, less⟩ := leads.first
  refine ⟨leads.gives, List.forall_mem_append.mpr ⟨leads.most, ?_⟩, before, after ++ [o], ?_, less⟩
  · exact List.forall_mem_singleton.mpr ⟨v, gives, least⟩
  · rw [List.append_assoc, List.cons_append]

private theorem Stands.improve {best : Option Best} {v : Int}
    (stands : Stands program feedback signal tried best)
    (gives : Amplifies program o feedback signal (.ok v)) :
    Stands program feedback signal (tried ++ [o]) (some (improve best v o)) := by
  cases best with
  | none =>
    cases stands
    exact leads_of_more gives nofun
  | some b =>
    show (Best.improve (some b) v o).Leads program feedback signal (tried ++ [o])
    unfold Best.improve
    dsimp only
    split
    · next more =>
      refine leads_of_more gives fun x mem ↦ ?_
      obtain ⟨w, gives', least⟩ := stands.most x mem
      exact ⟨w, gives', Int.lt_of_le_of_lt least more⟩
    · next enough => exact Leads.keeps stands gives (Int.not_lt.mp enough)

/-! ### The loop over the orderings -/

private theorem tryOrdering_of_error {k k' : Nat} {p : Progress} {e : Chain.Failure}
    {events : Array Chain.Event}
    (given : amplify k program o feedback signal = some (.error e, events)) (enough : k ≤ k') :
    tryOrdering k' program feedback signal p o = .error (some (e, p.events ++ events)) := by
  simp only [tryOrdering, amplify_mono given enough]

private theorem tryOrdering_of_ok {k k' : Nat} {p : Progress} {v : Int} {events : Array Chain.Event}
    (given : amplify k program o feedback signal = some (.ok v, events)) (enough : k ≤ k') :
    tryOrdering k' program feedback signal p o =
      .ok ⟨some (Best.improve p.best v o), p.events ++ events⟩ := by
  simp only [tryOrdering, amplify_mono given enough]

private theorem loop_stops (stops : ∀ o, Attempts program feedback signal os o →
      ∃ answer, Amplifies program o feedback signal answer) :
    ∃ needed, ∀ allowance p, needed ≤ allowance →
      os.foldlM (tryOrdering allowance program feedback signal) p ≠ .error none := by
  -- Behind an ordering that gives a signal the same ones are attempted as if it were not there.
  induction os with
  | nil => exact ⟨0, fun _ _ _ ↦ nofun⟩
  | cons o os ih =>
    obtain ⟨answer, k, events, given⟩ := stops o (attempts_cons_iff.mpr (.inl rfl))
    cases answer with
    | error e =>
      refine ⟨k, fun allowance p enough ↦ ?_⟩
      rw [List.foldlM_cons, tryOrdering_of_error given enough]
      exact nofun
    | ok v =>
      have gives : ∃ v, Amplifies program o feedback signal (.ok v) := ⟨v, k, events, given⟩
      obtain ⟨needed, later⟩ :=
        ih fun x attempt ↦ stops x (attempts_cons_iff.mpr (.inr ⟨gives, attempt⟩))
      refine ⟨max k needed, fun allowance p enough ↦ ?_⟩
      rw [List.foldlM_cons, tryOrdering_of_ok given (by omega)]
      exact later allowance _ (by omega)

/-- The loop ends with the best of all orderings, or with the first that fails. -/
theorem loop_cases {k : Nat} {p : Progress}
    {r : Except (Option (Chain.Failure × Array Chain.Event)) Progress}
    (h : os.foldlM (tryOrdering k program feedback signal) p = r)
    (stands : Stands program feedback signal tried p.best) :
    (∃ q, r = .ok q ∧ Stands program feedback signal (tried ++ os) q.best) ∨
      (∃ o e events, r = .error (some (e, events)) ∧ Attempts program feedback signal os o ∧
        Amplifies program o feedback signal (.error e)) ∨
      r = .error none := by
  induction os generalizing tried p with
  | nil => exact .inl ⟨p, h.symm, by rwa [List.append_nil]⟩
  | cons o os ih =>
    rw [List.foldlM_cons] at h
    cases given : amplify k program o feedback signal with
    | none =>
      rw [tryOrdering, given] at h
      exact .inr (.inr h.symm)
    | some answer =>
      obtain ⟨e | v, events⟩ := answer
      · rw [tryOrdering_of_error given (Nat.le_refl k)] at h
        have fails : Amplifies program o feedback signal (.error e) := ⟨k, events, given⟩
        exact .inr (.inl ⟨o, e, _, h.symm, attempts_cons_iff.mpr (.inl rfl), fails⟩)
      · rw [tryOrdering_of_ok given (Nat.le_refl k)] at h
        have gives : Amplifies program o feedback signal (.ok v) := ⟨k, events, given⟩
        rcases ih h (stands.improve gives) with ⟨q, done, stands'⟩ |
          ⟨x, e, seen, failed, attempt, fails⟩ | short
        · rw [List.append_assoc, List.singleton_append] at stands'
          exact .inl ⟨q, done, stands'⟩
        · have attempt' := attempts_cons_iff.mpr (.inr ⟨⟨v, gives⟩, attempt⟩)
          exact .inr (.inl ⟨x, e, seen, failed, attempt', fails⟩)
        · exact .inr (.inr short)

end Best

/-! ### Answers of searches -/

/-- A search gives the best of all orderings, or the failure of the first that fails. -/
theorem Searches.cases {answer : Except Chain.Failure Best}
    (h : Searches program phases feedback signal answer) :
    (∃ b, answer = .ok b ∧ b.Leads program feedback signal (orderings phases)) ∨
      ∃ o e, answer = .error e ∧ Attempts program feedback signal (orderings phases) o ∧
        Amplifies program o feedback signal (.error e) := by
  obtain ⟨allowance, events, found⟩ := h
  rw [Best.search, foldOrderings_eq] at found
  generalize loop : (orderings phases).foldlM
    (Best.tryOrdering allowance program feedback signal) _ = r at found
  have untried : Best.Stands program feedback signal [] (⟨none, #[]⟩ : Best.Progress).best := rfl
  rcases Best.loop_cases loop untried with
    ⟨⟨_ | b, seen⟩, rfl, stands⟩ | ⟨o, e, seen, rfl, attempt, fails⟩ | rfl
  · exact absurd stands (orderings_ne_nil phases)
  · cases found
    exact .inl ⟨b, rfl, stands⟩
  · cases found
    exact .inr ⟨o, e, rfl, attempt, fails⟩
  · cases found

/-- A search stops if every ordering that is attempted does. -/
theorem searches_of_stops (stops : ∀ o, Attempts program feedback signal (orderings phases) o →
      ∃ answer, Amplifies program o feedback signal answer) :
    ∃ answer, Searches program phases feedback signal answer := by
  obtain ⟨needed, loop⟩ := Best.loop_stops stops
  have stopped : Best.search needed program phases feedback signal ≠ none := by
    rw [Best.search, foldOrderings_eq]
    split
    · next short => exact absurd short (loop needed _ (Nat.le_refl needed))
    · nofun
    · nofun
    · nofun
  obtain ⟨⟨answer, events⟩, found⟩ := Option.ne_none_iff_exists'.mp stopped
  exact ⟨answer, needed, events, found⟩

/-- A search has at most one answer. -/
theorem Searches.unique {answer answer' : Except Chain.Failure Best}
    (h : Searches program phases feedback signal answer)
    (h' : Searches program phases feedback signal answer') : answer = answer' := by
  rcases h.cases with ⟨b, rfl, leads⟩ | ⟨o, e, rfl, attempt, fails⟩ <;>
    rcases h'.cases with ⟨b', rfl, leads'⟩ | ⟨o', e', rfl, attempt', fails'⟩
  · rw [leads.unique leads']
  · obtain ⟨v, gives, -⟩ := leads.most o' attempt'.mem
    cases gives.unique fails'
  · obtain ⟨v, gives, -⟩ := leads'.most o attempt.mem
    cases gives.unique fails
  · rw [attempt.unique fails attempt' fails']

/-- A search gives what leads all orderings, and nothing else. -/
theorem searches_ok_iff :
    Searches program phases feedback signal (.ok b) ↔
      b.Leads program feedback signal (orderings phases) := by
  constructor
  · intro found
    rcases found.cases with ⟨b', same, leads⟩ | ⟨o, e, other, -⟩
    · cases same
      exact leads
    · cases other
  · intro leads
    obtain ⟨answer, found⟩ := searches_of_stops fun o attempt ↦ by
      obtain ⟨v, gives, -⟩ := leads.most o attempt.mem
      exact ⟨.ok v, gives⟩
    rcases found.cases with ⟨b', rfl, leads'⟩ | ⟨o, e, rfl, attempt, fails⟩
    · exact leads.unique leads' ▸ found
    · obtain ⟨v, gives, -⟩ := leads.most o attempt.mem
      cases gives.unique fails

private theorem exists_leads
    (give : ∀ o ∈ orderings phases, ∃ v, Amplifies program o feedback signal (.ok v)) :
    ∃ b : Best, b.Leads program feedback signal (orderings phases) := by
  obtain ⟨answer, found⟩ := searches_of_stops fun o attempt ↦ by
    obtain ⟨v, gives⟩ := give o attempt.mem
    exact ⟨.ok v, gives⟩
  rcases found.cases with ⟨b, -, leads⟩ | ⟨o, e, -, attempt, fails⟩
  · exact ⟨b, leads⟩
  · obtain ⟨v, gives⟩ := give o attempt.mem
    cases gives.unique fails

/-- If every ordering that is attempted stops, a search fails as the first one that fails. -/
theorem searches_error_iff
    (stops : ∀ o, Attempts program feedback signal (orderings phases) o →
      ∃ answer, Amplifies program o feedback signal answer) {e : Chain.Failure} :
    Searches program phases feedback signal (.error e) ↔
      ∃ o, Attempts program feedback signal (orderings phases) o ∧
        Amplifies program o feedback signal (.error e) := by
  constructor
  · intro found
    rcases found.cases with ⟨b, other, -⟩ | ⟨o, e', same, attempt, fails⟩
    · cases other
    · cases same
      exact ⟨o, attempt, fails⟩
  · rintro ⟨o, attempt, fails⟩
    obtain ⟨answer, found⟩ := searches_of_stops stops
    rcases found.cases with ⟨b, rfl, leads⟩ | ⟨o', e', rfl, attempt', fails'⟩
    · obtain ⟨v, gives, -⟩ := leads.most o attempt.mem
      cases gives.unique fails
    · rw [attempt.unique fails attempt' fails']
      exact found

private theorem amplifies_nil :
    Amplifies program [] feedback signal (.error (.breach .noPhases)) :=
  ⟨0, #[], rfl⟩

/-- A search gives a signal exactly if there are phases and all their rearrangements do. -/
theorem exists_searches_iff :
    (∃ b, Searches program phases feedback signal (.ok b)) ↔
      phases ≠ [] ∧
        ∀ o, o.Perm phases → ∃ v, Amplifies program o feedback signal (.ok v) := by
  constructor
  · rintro ⟨b, found⟩
    have leads := searches_ok_iff.mp found
    have give (o : List Int) (perm : o.Perm phases) :
        ∃ v, Amplifies program o feedback signal (.ok v) := by
      obtain ⟨v, gives, -⟩ := leads.most o (mem_orderings_iff.mpr perm)
      exact ⟨v, gives⟩
    refine ⟨?_, give⟩
    rintro rfl
    obtain ⟨v, gives⟩ := give [] (.refl [])
    cases gives.unique amplifies_nil
  · rintro ⟨-, give⟩
    obtain ⟨b, leads⟩ := exists_leads fun o mem ↦ give o (mem_orderings_iff.mp mem)
    exact ⟨b, searches_ok_iff.mpr leads⟩

/-- A search that finds something is one over some phases. -/
theorem Searches.phases_ne_nil (found : Searches program phases feedback signal (.ok b)) :
    phases ≠ [] :=
  (exists_searches_iff.mp ⟨b, found⟩).1

/-- A search over the phases that were found finds them again, with the same signal. -/
theorem Searches.again (found : Searches program phases feedback signal (.ok b)) :
    Searches program b.phases feedback signal (.ok b) :=
  searches_ok_iff.mpr (searches_ok_iff.mp found).own

/-- Searches over the same phases in another order give the same signal. -/
theorem Searches.rearranged {phases' : List Int}
    (found : Searches program phases feedback signal (.ok b)) (perm : phases'.Perm phases) :
    ∃ o, Searches program phases' feedback signal (.ok ⟨b.signal, o⟩) := by
  have leads := searches_ok_iff.mp found
  have same (o : List Int) : o ∈ orderings phases ↔ o ∈ orderings phases' := by
    rw [mem_orderings_iff, mem_orderings_iff, perm.congr_right]
  obtain ⟨b', leads'⟩ := exists_leads fun o mem ↦ by
    obtain ⟨v, gives, -⟩ := leads.most o ((same o).mpr mem)
    exact ⟨v, gives⟩
  rw [leads.signal_eq leads' same]
  exact ⟨b'.phases, searches_ok_iff.mpr leads'⟩

/-- If every ordering that is attempted stops, a search finds the first ordering of the greatest
signal, or fails as the first ordering that fails. -/
theorem search_is_exact
    (stops : ∀ o, Attempts program feedback signal (orderings phases) o →
      ∃ answer, Amplifies program o feedback signal answer) :
    ByPosition phases (orderings phases) ∧
      (∃! answer, Searches program phases feedback signal answer) ∧
      ((∃ b, Searches program phases feedback signal (.ok b)) ↔
        phases ≠ [] ∧
          ∀ o, o.Perm phases → ∃ v, Amplifies program o feedback signal (.ok v)) ∧
      (∀ e, Searches program phases feedback signal (.error e) ↔
        ∃ o, Attempts program feedback signal (orderings phases) o ∧
          Amplifies program o feedback signal (.error e)) ∧
      (phases = [] → Searches program phases feedback signal (.error (.breach .noPhases))) ∧
      ∀ b, Searches program phases feedback signal (.ok b) →
        b.phases.Perm phases ∧ Amplifies program b.phases feedback signal (.ok b.signal) ∧
          (∀ o, o.Perm phases →
            ∃ v, Amplifies program o feedback signal (.ok v) ∧ v ≤ b.signal) ∧
          (∃ before after, orderings phases = before ++ b.phases :: after ∧
            b.phases ∉ before ∧
            ∀ o ∈ before, ∃ v, Amplifies program o feedback signal (.ok v) ∧ v < b.signal) ∧
          ∀ phases', phases'.Perm phases →
            ∃ o, Searches program phases' feedback signal (.ok ⟨b.signal, o⟩) := by
  obtain ⟨answer, found⟩ := searches_of_stops stops
  refine ⟨orderings_byPosition phases, ⟨answer, found, fun other again ↦ again.unique found⟩,
    exists_searches_iff, fun e ↦ searches_error_iff stops, ?_, ?_⟩
  · rintro rfl
    exact (searches_error_iff stops).mpr ⟨[], attempts_cons_iff.mpr (.inl rfl), amplifies_nil⟩
  · intro b best
    have leads := searches_ok_iff.mp best
    exact ⟨mem_orderings_iff.mp leads.mem, leads.gives,
      fun o perm ↦ leads.most o (mem_orderings_iff.mpr perm), leads.first_place,
      fun phases' perm ↦ best.rearranged perm⟩

/-- Of digits put one behind the other, of which two are equal, the number that begins with the
greatest is found. -/
theorem search_is_exact_digits :
    (∀ o, Attempts "3,15,3,16,1002,16,10,16,1,16,15,15,4,15,99,0,0" false 0
        (orderings [0, 1, 0]) o →
      ∃ answer, Amplifies "3,15,3,16,1002,16,10,16,1,16,15,15,4,15,99,0,0" o false 0 answer) ∧
    Searches "3,15,3,16,1002,16,10,16,1,16,15,15,4,15,99,0,0" [0, 1, 0] false 0
      (.ok ⟨100, [1, 0, 0]⟩) ∧
    ∀ o, o.Perm [0, 1, 0] → ∃ v,
      Amplifies "3,15,3,16,1002,16,10,16,1,16,15,15,4,15,99,0,0" o false 0 (.ok v) ∧ v ≤ 100 := by
  have found : (Best.search 8 "3,15,3,16,1002,16,10,16,1,16,15,15,4,15,99,0,0" [0, 1, 0] false
      0).bind (·.1.toOption) = some ⟨100, [1, 0, 0]⟩ := by decide +kernel
  obtain ⟨⟨e | b, events⟩, stopped, told⟩ := Option.bind_eq_some_iff.mp found
  · cases told
  · cases told
    have best : Searches "3,15,3,16,1002,16,10,16,1,16,15,15,4,15,99,0,0" [0, 1, 0] false 0
        (.ok ⟨100, [1, 0, 0]⟩) := ⟨8, events, stopped⟩
    have stops (o : List Int) (attempt : Attempts
        "3,15,3,16,1002,16,10,16,1,16,15,15,4,15,99,0,0" false 0 (orderings [0, 1, 0]) o) :
        ∃ answer, Amplifies "3,15,3,16,1002,16,10,16,1,16,15,15,4,15,99,0,0" o false 0 answer := by
      obtain ⟨v, gives, -⟩ := (searches_ok_iff.mp best).most o attempt.mem
      exact ⟨.ok v, gives⟩
    obtain ⟨-, -, -, -, -, answers⟩ := search_is_exact stops
    obtain ⟨-, -, most, -⟩ := answers _ best
    exact ⟨stops, best, most⟩

end DecimalMachine
