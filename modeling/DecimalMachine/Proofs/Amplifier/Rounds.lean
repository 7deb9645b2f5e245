import DecimalMachine.Proofs.Amplifier.Flow

/-!
# What a run of a chain can do

A run settles the machines on their phases, one after the other, and then takes turns until the chain
has finished. Each of these parts is taken apart here once, with every way in which it can end: a
machine that faults while it settles, a turn that is answered, one that is not, and a chain that has
finished.
-/

namespace DecimalMachine.Chain

/-- The machines of the first chain have run on their phases, each for itself, and the second chain
is to be given its signal. -/
structure Settles (c : Chain) (signal : Int) (d : Chain) : Prop where
  size : d.size = c.size
  phases : d.phases = c.phases
  feedback : d.feedback = c.feedback
  feeds : d.feeds = c.feeds
  given : d.signal = some signal
  machines : ∀ j < c.size, (c.machine j).RunsTo (d.machine j)

/-! ### Settling -/

/-- Another machine of the first round is not replaced. -/
theorem machine_replace_other {c : Chain} {i j : Nat} (m : Machine) (hi : i < c.size)
    (hj : j < c.size) (other : i ≠ j) : (c.replace i m).machine j = c.machine j := by
  apply machine_replace_of_ne
  rw [Nat.mod_eq_of_lt hi, Nat.mod_eq_of_lt hj]
  exact other

/-- Settling runs the machine of the first turn. It fails with that machine, or goes on with the
others. -/
theorem settle_cons_cases {allowance t : Nat} {ts : List Nat} {c : Chain} {seen : Array Event}
    {r : Response Unit} (h : settle allowance (t :: ts) c seen = some r) :
    ∃ q, (c.machine t).run allowance = some q ∧
      ((∃ f, q.result = .error f ∧ r.result = .error (.machine f) ∧
          r.chain = c.replace t q.machine) ∨
        ∃ s events, q.result = .ok s ∧
          settle allowance ts (c.replace t q.machine) events = some r) := by
  simp only [settle] at h
  cases ran : (c.machine t).run allowance with
  | none => simp only [ran, reduceCtorEq] at h
  | some q =>
    refine ⟨q, rfl, ?_⟩
    simp only [ran] at h
    cases result : q.result with
    | error f =>
      simp only [result, Option.some.injEq] at h
      subst h
      exact .inl ⟨f, rfl, rfl, rfl⟩
    | ok s =>
      simp only [result] at h
      exact .inr ⟨s, _, rfl, h⟩

/-- Settling machines that are all different runs each of them once and changes nothing else, unless
the run of one of them fails. -/
theorem settle_cases {allowance : Nat} {turns : List Nat} {c : Chain} {seen : Array Event}
    {r : Response Unit} (inside : ∀ t ∈ turns, t < c.size) (once : turns.Nodup)
    (h : settle allowance turns c seen = some r) :
    (r.chain.size = c.size ∧ r.chain.phases = c.phases ∧ r.chain.feedback = c.feedback ∧
        r.chain.feeds = c.feeds) ∧
      (r.result = .ok () ∧ (∀ j < c.size, if j ∈ turns then (c.machine j).RunsTo (r.chain.machine j)
          else r.chain.machine j = c.machine j) ∨
        ∃ j ∈ turns, ∃ q f, (c.machine j).run allowance = some q ∧ q.result = .error f ∧
          r.result = .error (.machine f) ∧ r.chain.machine j = q.machine) := by
  induction turns generalizing c seen with
  | nil =>
    cases h
    exact ⟨⟨rfl, rfl, rfl, rfl⟩, .inl ⟨rfl, fun j _ ↦ by rw [if_neg List.not_mem_nil]⟩⟩
  | cons t ts ih =>
    obtain ⟨fresh, once'⟩ := List.nodup_cons.mp once
    have first : t < c.size := inside t List.mem_cons_self
    obtain ⟨q, ran, ⟨f, failed, told, left⟩ | ⟨s, events, ok, later⟩⟩ := settle_cons_cases h
    · rw [left]
      exact ⟨⟨size_replace .., rfl, rfl, rfl⟩,
        .inr ⟨t, List.mem_cons_self, q, f, ran, failed, told, machine_replace_self ..⟩⟩
    · have size : (c.replace t q.machine).size = c.size := size_replace ..
      obtain ⟨kept, ends⟩ :=
        ih (fun u hu ↦ size ▸ inside u (List.mem_cons_of_mem _ hu)) once' later
      rw [size] at kept ends
      refine ⟨kept, ?_⟩
      -- The first machine is not settled again, and the others have not been touched before.
      rcases ends with ⟨done, machines⟩ | ⟨j, mem, q', f, ran', failed, told, left⟩
      · refine .inl ⟨done, ?_⟩
        intro j hj
        have here := machines j hj
        by_cases same : j = t
        · subst same
          rw [if_neg fresh, machine_replace_self] at here
          rw [if_pos List.mem_cons_self, here]
          exact ⟨allowance, q, s, ran, ok, rfl⟩
        · rw [machine_replace_other q.machine first hj (Ne.symm same)] at here
          simpa only [List.mem_cons, same, false_or] using here
      · have mem' : j ∈ t :: ts := List.mem_cons_of_mem _ mem
        have other : t ≠ j := by
          rintro rfl
          exact fresh mem
        rw [machine_replace_other q.machine first (inside j mem') other] at ran'
        exact .inr ⟨j, mem', q', f, ran', failed, told, left⟩

/-- When all machines have settled, the chain is to be given its signal. -/
theorem settles_of_settle {allowance : Nat} {c : Chain} {seen : Array Event} {q : Response Unit}
    (h : settle allowance (List.range c.size) c seen = some q) (ok : q.result = .ok ())
    (signal : Int) : c.Settles signal { q.chain with signal := some signal } := by
  obtain ⟨⟨size, phases, feedback, feeds⟩, ⟨-, machines⟩ | ⟨j, -, q', f, -, -, failed, -⟩⟩ :=
    settle_cases (fun t ht ↦ List.mem_range.mp ht) List.nodup_range h
  · refine ⟨size, phases, feedback, feeds, rfl, ?_⟩
    intro j hj
    have settled := machines j hj
    rw [if_pos (List.mem_range.mpr hj)] at settled
    exact settled
  · cases ok.symm.trans failed

/-- Machines that are all different and can all be run on their phases are settled, if the allowance
is large enough. -/
theorem settle_of_runs {turns : List Nat} {c : Chain} (inside : ∀ t ∈ turns, t < c.size)
    (once : turns.Nodup) (runs : ∀ t ∈ turns, ∃ m, (c.machine t).RunsTo m) :
    ∃ needed, ∀ allowance seen, needed ≤ allowance →
      ∃ r, settle allowance turns c seen = some r ∧ r.result = .ok () := by
  induction turns generalizing c with
  | nil => exact ⟨0, fun _ seen _ ↦ ⟨⟨.ok (), c, seen⟩, rfl, rfl⟩⟩
  | cons t ts ih =>
    obtain ⟨fresh, once'⟩ := List.nodup_cons.mp once
    obtain ⟨m, k, q, s, ran, ok, rfl⟩ := runs t List.mem_cons_self
    have size : (c.replace t q.machine).size = c.size := size_replace ..
    have runs' : ∀ u ∈ ts, ∃ m, ((c.replace t q.machine).machine u).RunsTo m := by
      intro u hu
      have mem : u ∈ t :: ts := List.mem_cons_of_mem _ hu
      have other : t ≠ u := by
        rintro rfl
        exact fresh hu
      rw [machine_replace_other q.machine (inside t List.mem_cons_self) (inside u mem) other]
      exact runs u mem
    obtain ⟨needed, settles⟩ :=
      ih (fun u hu ↦ size ▸ inside u (List.mem_cons_of_mem _ hu)) once' runs'
    refine ⟨max k needed, ?_⟩
    intro allowance seen enough
    have ran' := Machine.run_mono ran (by omega : k ≤ allowance)
    obtain ⟨r, settled, done⟩ := settles allowance (seen ++ c.eventsOf t q.events) (by omega)
    refine ⟨r, ?_, done⟩
    simp only [settle, ran', ok]
    exact settled

/-! ### Turns -/

/-- A turn feeds its machine. Then the machine fails, or it has put out one value, which is the
answer, or it has put out more or fewer. -/
theorem turn_cases {allowance i : Nat} {c : Chain} {s : Int} {r : Response Int}
    (h : c.turn allowance i s = some r) :
    ∃ q, (c.machine i).feed allowance s = some q ∧
      ((∃ f, q.result = .error f ∧ r.result = .error (.machine f) ∧
          r.chain = c.replace i q.machine) ∨
        (∃ state answer, q.result = .ok state ∧
          q.machine.outputs = (c.machine i).outputs.push answer ∧ r.result = .ok answer ∧
          r.chain = c.advance i q.machine answer) ∨
        ∃ state new, q.result = .ok state ∧
          q.machine.outputs.toList = (c.machine i).outputs.toList ++ new ∧ new.length ≠ 1 ∧
          r.result = .error (.breach (.outputCount new.length (i % c.size))) ∧
          r.chain = c.replace i q.machine) := by
  unfold turn at h
  cases fed : (c.machine i).feed allowance s with
  | none => simp only [fed, reduceCtorEq] at h
  | some q =>
    refine ⟨q, rfl, ?_⟩
    simp only [fed] at h
    cases result : q.result with
    | error f =>
      simp only [result, Option.some.injEq] at h
      subst h
      exact .inl ⟨f, rfl, rfl, rfl⟩
    | ok state =>
      obtain ⟨new, grown⟩ := Machine.outputs_of_feed fed
      have produced : q.machine.outputs.size - (c.machine i).outputs.size = new.length := by
        rw [← Outputs.length_toList, ← Outputs.length_toList, ← grown, List.length_append,
          Nat.add_sub_cancel_left]
      simp only [result, produced] at h
      by_cases one : new.length = 1
      · obtain ⟨answer, rfl⟩ := List.length_eq_one_iff.mp one
        have last : q.machine.outputs.last? = some answer := by
          rw [Outputs.last?_eq, ← grown, List.getLast?_concat]
        have pushed : q.machine.outputs = (c.machine i).outputs.push answer := by
          apply Outputs.ext_toList
          rw [Outputs.toList_push, grown]
        simp only [last, List.length_singleton, Option.some.injEq] at h
        subst h
        exact .inr (.inl ⟨state, answer, rfl, pushed, rfl, rfl⟩)
      · split at h
        · next found _ => exact absurd found one
        · cases h
          exact .inr (.inr ⟨state, new, rfl, grown.symm, one, rfl, rfl⟩)

private theorem size_of_turn {allowance i : Nat} {c : Chain} {s : Int} {r : Response Int}
    (h : c.turn allowance i s = some r) : r.chain.size = c.size := by
  obtain ⟨q, -, ⟨f, -, -, left⟩ | ⟨state, answer, -, -, -, left⟩ |
    ⟨state, new, -, -, -, -, left⟩⟩ := turn_cases h
  · rw [left, size_replace]
  · rw [left, size_advance]
  · rw [left, size_replace]

/-- Turns lead to a chain that has finished, or to a turn that fails. -/
theorem rounds_cases {allowance n : Nat} {c d : Chain} {signal s : Int} {turns : List Turn}
    {seen : Array Event} {r : Response Int} (flow : Flow c signal turns d s)
    (h : rounds allowance n turns.length d s seen = some r) :
    ∃ turns' d' s', Flow c signal turns' d' s' ∧
      (d'.finished turns'.length = true ∧ (∃ seen', r = d'.conclude seen') ∨
        d'.finished turns'.length = false ∧ ∃ q e, d'.turn allowance turns'.length s' = some q ∧
          q.result = .error e ∧ r.result = .error e ∧ r.chain = q.chain) := by
  induction n generalizing turns d s seen with
  | zero => cases h
  | succ n ih =>
    rw [rounds] at h
    cases done : d.finished turns.length with
    | true =>
      rw [if_pos done, Option.some.injEq] at h
      exact ⟨turns, d, s, flow, .inl ⟨done, seen, h.symm⟩⟩
    | false =>
      rw [done, if_neg Bool.false_ne_true] at h
      cases taken : d.turn allowance turns.length s with
      | none => simp only [taken, reduceCtorEq] at h
      | some q =>
        simp only [taken] at h
        cases result : q.result with
        | error e =>
          simp only [result, Option.some.injEq] at h
          subst h
          exact ⟨turns, d, s, flow, .inr ⟨done, q, e, taken, result, rfl, rfl⟩⟩
        | ok answer =>
          simp only [result] at h
          obtain ⟨p, fed, ⟨f, -, failed, -⟩ | ⟨state, v, ok, pushed, told, left⟩ |
            ⟨state, new, -, -, -, failed, -⟩⟩ := turn_cases taken
          · cases failed.symm.trans result
          · cases told.symm.trans result
            have takes : (d.machine turns.length).Takes ⟨s, answer⟩ p.machine :=
              ⟨allowance, p, state, fed, ok, rfl, pushed⟩
            have count : (turns ++ [(⟨s, answer⟩ : Turn)]).length = turns.length + 1 := by simp
            rw [left, ← count] at h
            exact ih (flow.turn done takes) h
          · cases failed.symm.trans result

/-! ### Whole runs -/

/-- A run fails at a machine that settles, or it settles all of them and takes turns; these lead to
a chain that has finished, or to a turn that fails. -/
theorem run_cases {allowance : Nat} {c : Chain} {signal : Int} {r : Response Int}
    (ran : c.run allowance signal = some r) :
    (r.chain.size = c.size ∧ r.chain.feeds = c.feeds ∧ ∃ j < c.size, ∃ q f,
        (c.machine j).run allowance = some q ∧ q.result = .error f ∧
          r.result = .error (.machine f) ∧ r.chain.machine j = q.machine) ∨
      ∃ settled turns d s, c.Settles signal settled ∧ Flow settled signal turns d s ∧
        (d.finished turns.length = true ∧ (∃ seen, r = d.conclude seen) ∨
          d.finished turns.length = false ∧ ∃ q e, d.turn allowance turns.length s = some q ∧
            q.result = .error e ∧ r.result = .error e ∧ r.chain = q.chain) := by
  unfold run at ran
  cases hs : settle allowance (List.range c.size) c #[] with
  | none => simp only [hs, reduceCtorEq] at ran
  | some q =>
    simp only [hs] at ran
    cases result : q.result with
    | ok _ =>
      simp only [result] at ran
      obtain ⟨turns, d, s, flow, ends⟩ := rounds_cases .start ran
      exact .inr ⟨_, turns, d, s, settles_of_settle hs result signal, flow, ends⟩
    | error e =>
      simp only [result, Option.some.injEq] at ran
      subst ran
      obtain ⟨⟨size, -, -, feeds⟩, ⟨ok, -⟩ | ⟨j, mem, q', f, ran', failed, told, left⟩⟩ :=
        settle_cases (fun t ht ↦ List.mem_range.mp ht) List.nodup_range hs
      · cases ok.symm.trans result
      · cases told.symm.trans result
        exact .inl ⟨size, feeds, j, List.mem_range.mp mem, q', f, ran', failed, rfl, left⟩

private theorem size_conclude (c : Chain) (seen : Array Event) :
    (c.conclude seen).chain.size = c.size := by
  unfold conclude
  split <;> rfl

/-- A run keeps the number of machines, however it ends. -/
theorem size_of_run {allowance : Nat} {c : Chain} {signal : Int} {r : Response Int}
    (ran : c.run allowance signal = some r) : r.chain.size = c.size := by
  rcases run_cases ran with ⟨size, -⟩ |
    ⟨settled, turns, d, s, settles, flow, ⟨-, seen, rfl⟩ | ⟨-, q, e, taken, -, -, left⟩⟩
  · exact size
  · rw [size_conclude, flow.kept.1, settles.size]
  · rw [left, size_of_turn taken, flow.kept.1, settles.size]

/-- A chain that has not been fed gives no signal. -/
theorem conclude_of_unfed {c : Chain} (unfed : c.feeds = 0) (seen : Array Event) :
    c.conclude seen = ⟨.error (.breach (.noSignal (c.size - 1))), c, seen⟩ := by
  simp only [conclude, unfed]

/-- A chain that has been fed gives the latest output of its last machine as its signal. -/
theorem conclude_of_fed {c : Chain} {v : Int} (fed : c.feeds ≠ 0)
    (latest : c.last.outputs.last? = some v) (seen : Array Event) :
    (c.conclude seen).result = .ok v ∧
      (c.conclude seen).chain = { c with signal := some v } := by
  unfold conclude
  split
  · next unfed => exact absurd unfed fed
  · next nothing _ => cases nothing.symm.trans latest
  · next found _ =>
    cases found.symm.trans latest
    exact ⟨rfl, rfl⟩

/-- A chain that gives a signal has been fed, and the signal is the latest output of its last
machine. -/
theorem conclude_ok {c : Chain} {seen : Array Event} {result : Int}
    (ok : (c.conclude seen).result = .ok result) :
    c.feeds ≠ 0 ∧ c.last.outputs.last? = some result ∧
      (c.conclude seen).chain = { c with signal := some result } := by
  unfold conclude at ok ⊢
  split at ok
  · cases ok
  · cases ok
  · next last fed =>
    cases ok
    exact ⟨fed, last, rfl⟩

end DecimalMachine.Chain
