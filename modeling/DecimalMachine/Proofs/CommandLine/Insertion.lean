import DecimalMachine.CommandLine.Invocation

/-!
# One more flag

A flag can be put between two arguments of a command as long as they are not torn apart by it: it must
not come behind the separator, not take the place of a value, and not stand between the first word and
a separator next to it. The arguments then say what they said without it, and somewhere among it the
flag. Before the command nothing changes at all, as the arguments are handed on as they are.
-/

namespace DecimalMachine.CommandLine

/-- The second list of steps is the first one, maybe with one more step somewhere. -/
inductive Added (s : Step) : List Step → List Step → Prop
  | same (steps : List Step) : Added s steps steps
  | here (steps : List Step) : Added s steps (s :: steps)
  | later (x : Step) {steps steps' : List Step} (h : Added s steps steps') :
      Added s (x :: steps) (x :: steps')

private theorem Added.append {s : Step} {steps steps' : List Step} (before : List Step)
    (h : Added s steps steps') : Added s (before ++ steps) (before ++ steps') := by
  induction before with
  | nil => exact h
  | cons x before ih => exact .later x ih

/-- An option that is given without the value it takes, so that the next argument is to be that. -/
def Item.Awaits (g : Grammar) : Item → Prop
  | .option _ o name attached =>
    ∃ flags p, g.readOption o name attached = .ok (flags, .alone p) ∧ p.takesValue = true
  | _ => False

/-- A flag can be put between the items. -/
structure Gap (g : Grammar) (before after : List Item) : Prop where
  ended : .separator ∉ before
  awaited : ∀ x ∈ before.getLast?, ¬x.Awaits g
  joined : ∀ rest, after = .separator :: rest → ∀ x ∈ before.getLast?, ∀ text, x ≠ .word text

private theorem Gap.tail {g : Grammar} {x : Item} {before after : List Item}
    (gap : Gap g (x :: before) after) : Gap g before after := by
  have last (y : Item) (hy : y ∈ before.getLast?) : y ∈ (x :: before).getLast? := by
    rw [List.getLast?_cons, Option.mem_def.mp hy]
    rfl
  exact ⟨fun mem ↦ gap.ended (List.mem_cons_of_mem _ mem), fun y hy ↦ gap.awaited y (last y hy),
    fun rest h y hy ↦ gap.joined rest h y (last y hy)⟩

namespace Grammar

variable {g : Grammar}

/-! ### Classified arguments -/

private theorem exists_of_bind_ok {α β : Type} {x : Except Complaint α}
    {f : α → Except Complaint β} {b : β} (h : x.bind f = .ok b) : ∃ a, x = .ok a ∧ f a = .ok b := by
  cases x with
  | error c => cases h
  | ok a => exact ⟨a, rfl, h⟩

private theorem exists_of_map_ok {α β : Type} {x : Except Complaint α} {f : α → β} {b : β}
    (h : x.map f = .ok b) : ∃ a, x = .ok a ∧ b = f a := by
  cases x with
  | error c => cases h
  | ok a => exact ⟨a, rfl, (Except.ok.inj h).symm⟩

private theorem classifyOther_cases (g : Grammar) (s : String) :
    (∃ item, g.classifyOther s = .ok item ∧ item.raw = s ∧ item ≠ .separator) ∨
      ∃ c, g.classifyOther s = .error c := by
  unfold classifyOther
  split
  · exact .inl ⟨_, rfl, rfl, by simp⟩
  · split
    · exact .inl ⟨_, rfl, rfl, by simp⟩
    · exact .inl ⟨_, rfl, rfl, by simp⟩
  · exact .inr ⟨_, rfl⟩

private theorem classify_cases (g : Grammar) (s : String) :
    (∃ item, g.classify s = .ok item ∧ item.raw = s ∧ item ≠ .separator) ∨
      ∃ c, g.classify s = .error c := by
  unfold classify
  split
  · split
    · exact .inl ⟨_, rfl, rfl, by simp⟩
    · split
      · dsimp only
        split
        · exact .inl ⟨_, rfl, rfl, by simp⟩
        · exact g.classifyOther_cases s
      · exact g.classifyOther_cases s
  · exact .inl ⟨_, rfl, rfl, by simp⟩

private theorem of_classify {s : String} {item : Item} (h : g.classify s = .ok item) :
    item.raw = s ∧ item ≠ .separator := by
  rcases g.classify_cases s with ⟨item', found, same⟩ | ⟨c, failed⟩
  · cases h.symm.trans found
    exact same
  · cases h.symm.trans failed

private theorem of_classifyAll_cons {s : String} {args : List String} (other : s ≠ separatorText)
    {items : List Item} (h : g.classifyAll (s :: args) = .ok items) :
    ∃ x xs, g.classify s = .ok x ∧ g.classifyAll args = .ok xs ∧ items = x :: xs := by
  rw [classifyAll, if_neg other] at h
  cases first : g.classify s with
  | error c =>
    rw [first] at h
    cases h
  | ok x =>
    rw [first] at h
    obtain ⟨xs, others, rfl⟩ := exists_of_map_ok h
    exact ⟨x, xs, rfl, others, rfl⟩

/-- All items are the arguments that were given. -/
theorem raw_of_classifyAll {args : List String} {items : List Item}
    (h : g.classifyAll args = .ok items) : items.map Item.raw = args := by
  induction args generalizing items with
  | nil =>
    cases h
    rfl
  | cons s rest ih =>
    by_cases separator : s = separatorText
    · rw [classifyAll, if_pos separator] at h
      cases h
      have words : Item.raw ∘ Item.word = id := rfl
      rw [List.map_cons, List.map_map, words, List.map_id, separator]
      rfl
    · obtain ⟨x, xs, first, others, rfl⟩ := of_classifyAll_cons separator h
      rw [List.map_cons, (of_classify first).1, ih others]

/-- Without a separator, arguments are classified one after the other. -/
theorem classifyAll_append {a : List String} (ended : separatorText ∉ a) (b : List String) :
    g.classifyAll (a ++ b) =
      (g.classifyAll a).bind fun xs ↦ (g.classifyAll b).map (xs ++ ·) := by
  induction a with
  | nil =>
    show g.classifyAll b = (g.classifyAll b).map id
    cases g.classifyAll b <;> rfl
  | cons s a ih =>
    have other : s ≠ separatorText := fun same ↦ ended (same ▸ List.mem_cons_self)
    rw [List.cons_append, classifyAll, if_neg other, classifyAll, if_neg other,
      ih fun mem ↦ ended (List.mem_cons_of_mem _ mem)]
    cases g.classify s with
    | error c => rfl
    | ok x =>
      cases g.classifyAll a with
      | error c => rfl
      | ok xs => cases g.classifyAll b <;> rfl

private theorem classifyAll_append_of_mem {a : List String} (ended : separatorText ∈ a)
    (b : List String) :
    g.classifyAll (a ++ b) = (g.classifyAll a).map (· ++ b.map .word) := by
  induction a with
  | nil => cases ended
  | cons s a ih =>
    rw [List.cons_append, classifyAll, classifyAll]
    by_cases separator : s = separatorText
    · rw [if_pos separator, if_pos separator, List.map_append]
      rfl
    · have later : separatorText ∈ a :=
        (List.mem_cons.mp ended).resolve_left fun same ↦ separator same.symm
      rw [if_neg separator, if_neg separator, ih later]
      cases g.classify s with
      | error c => rfl
      | ok x => cases g.classifyAll a <;> rfl

private theorem of_classifyAll_append {a b : List String} {items : List Item}
    (h : g.classifyAll (a ++ b) = .ok items) :
    ∃ xs ys, items = xs ++ ys ∧ g.classifyAll a = .ok xs ∧
      (separatorText ∈ a ∧ ys = b.map .word ∨ separatorText ∉ a ∧ g.classifyAll b = .ok ys) := by
  by_cases ended : separatorText ∈ a
  · rw [classifyAll_append_of_mem ended] at h
    obtain ⟨xs, first, rfl⟩ := exists_of_map_ok h
    exact ⟨xs, _, rfl, first, .inl ⟨ended, rfl⟩⟩
  · rw [classifyAll_append ended] at h
    obtain ⟨xs, first, later⟩ := exists_of_bind_ok h
    obtain ⟨ys, others, rfl⟩ := exists_of_map_ok later
    exact ⟨xs, ys, rfl, first, .inr ⟨ended, others⟩⟩

/-! ### Reading -/

/-- Items at the front say something of their own, and hand nothing on, whatever comes behind them. -/
structure Reads (g : Grammar) (front : List Item) (told : List Step) : Prop where
  read (wanted : Bool) (items : List Item) :
    g.read wanted (front ++ items) = told ++ g.read wanted items
  kept (word : String) (others : List String) : .rest word others ∉ told

/-- How an option is read: alone; with a complaint about it, whatever comes behind it; or together with
the word behind it, without which it is complained about. -/
inductive OptionReading (g : Grammar) (x : Item) : Prop
  | alone (told : List Step) (reads : g.Reads [x] told)
  | wrong (c : Complaint) (same : ∀ wanted items, g.read wanted (x :: items) = [.wrong c])
  | awaiting (awaits : x.Awaits g) (taken : ∀ text, ∃ told, g.Reads [x, .word text] told)
      (c : Complaint)
      (other : ∀ wanted items, (∀ text rest, items ≠ .word text :: rest) →
        g.read wanted (x :: items) = [.wrong c])

private theorem kept_flags (flags : List OptionSpec) {last : Step}
    (plain : ∀ word others, .rest word others ≠ last) (word : String) (others : List String) :
    .rest word others ∉ flags.map Step.flag ++ [last] := by
  simp [plain]

private theorem reads_unknown (text : String) : g.Reads [.unknown text] [.extra text] where
  read wanted items := by rw [List.singleton_append, Grammar.read, List.singleton_append]
  kept word others := by simp

private theorem reads_value {raw name : String} {o p : OptionSpec} {attached : Option (List Char)}
    {flags : List OptionSpec} {text : Option String}
    (opts : g.readOption o name attached = .ok (flags, .value p text)) :
    g.Reads [.option raw o name attached] (flags.map .flag ++ [.value p text]) where
  read wanted items := by
    rw [List.singleton_append, Grammar.read, opts, List.append_assoc]
    rfl
  kept := kept_flags flags nofun

private theorem reads_flags {raw name : String} {o p : OptionSpec} {attached : Option (List Char)}
    {flags : List OptionSpec} (opts : g.readOption o name attached = .ok (flags, .alone p))
    (plain : p.takesValue = false) :
    g.Reads [.option raw o name attached] (flags.map .flag ++ [.flag p]) where
  read wanted items := by
    rw [List.singleton_append, Grammar.read]
    simp [opts, plain]
  kept := kept_flags flags nofun

private theorem reads_taken {raw name : String} {o p : OptionSpec} {attached : Option (List Char)}
    {flags : List OptionSpec} (opts : g.readOption o name attached = .ok (flags, .alone p))
    (takes : p.takesValue = true) (text : String) :
    g.Reads [.option raw o name attached, .word text]
      (flags.map .flag ++ [.value p (some text)]) where
  read wanted items := by
    rw [List.cons_append, List.singleton_append, Grammar.read]
    simp [opts, takes]
  kept := kept_flags flags nofun

private theorem read_valueExpected {raw name : String} {o p : OptionSpec}
    {attached : Option (List Char)}
    {flags : List OptionSpec} (opts : g.readOption o name attached = .ok (flags, .alone p))
    (takes : p.takesValue = true) (wanted : Bool) {items : List Item}
    (next : ∀ text rest, items ≠ .word text :: rest) :
    g.read wanted (.option raw o name attached :: items) = [.wrong (.valueExpected p)] := by
  rw [read]
  simp only [opts, takes, if_true]

/-- Every option is read in one of three ways. -/
theorem optionReading (g : Grammar) (raw : String) (o : OptionSpec) (name : String)
    (attached : Option (List Char)) : g.OptionReading (.option raw o name attached) := by
  cases opts : g.readOption o name attached with
  | error c =>
    refine .wrong c fun wanted items ↦ ?_
    rw [read, opts]
  | ok group =>
    obtain ⟨flags, p | ⟨p, text⟩⟩ := group
    · cases takes : p.takesValue with
      | false => exact .alone _ (reads_flags opts takes)
      | true =>
        exact .awaiting ⟨flags, p, opts, takes⟩ (fun text ↦ ⟨_, reads_taken opts takes text⟩)
          (.valueExpected p) fun wanted _ next ↦ read_valueExpected opts takes wanted next
    · exact .alone _ (reads_value opts)

private theorem read_first (words : g.firstWordTakesRest = false) (text : String)
    {items : List Item}
    (next : ∀ rest, items ≠ .separator :: rest) :
    g.read true (.word text :: items) = .word text :: g.read false items := by
  rw [read]
  · simp [words]
  · exact next

private theorem read_further (text : String) (items : List Item) :
    g.read false (.word text :: items) = .extra text :: g.read false items := by
  cases items with
  | nil => rfl
  | cons x items => cases x <;> rfl

/-! ### One more flag among items -/

private theorem added_of_eq {s : Step} {steps steps' told : List Step} (h : steps = told)
    (h' : steps' = told) : Added s steps steps' := by
  rw [h, h']
  exact .same told

private theorem Reads.added {front : List Item} {told : List Step} (reads : g.Reads front told)
    {s : Step}
    {wanted : Bool} {items items' : List Item}
    (h : Added s (g.read wanted items) (g.read wanted items')) :
    Added s (g.read wanted (front ++ items)) (g.read wanted (front ++ items')) := by
  rw [reads.read, reads.read]
  exact .append told h

private theorem added_flag (wanted : Bool) (raw name : String) {o : OptionSpec}
    (plain : o.takesValue = false) (items : List Item) :
    Added (.flag o) (g.read wanted items)
      (g.read wanted (.option raw o name none :: items)) := by
  have opts : g.readOption o name none = .ok ([], .alone o) := rfl
  have read : g.read wanted (.option raw o name none :: items) = .flag o :: g.read wanted items :=
    (reads_flags opts plain).read wanted items
  rw [read]
  exact .here _

/-- With one more flag the items say one more step. -/
theorem read_insert (words : g.firstWordTakesRest = false) (raw name : String) {o : OptionSpec}
    (plain : o.takesValue = false) {after : List Item} :
    ∀ (before : List Item) (wanted : Bool), Gap g before after →
      Added (.flag o) (g.read wanted (before ++ after))
        (g.read wanted (before ++ .option raw o name none :: after))
  | [], wanted, _ => added_flag wanted raw name plain after
  | .unknown text :: before, wanted, gap =>
    (reads_unknown text).added (read_insert words raw name plain before wanted gap.tail)
  | .separator :: before, wanted, gap => absurd List.mem_cons_self gap.ended
  | [.word text], true, gap => by
    have next : ∀ rest, after ≠ .separator :: rest :=
      fun rest same ↦ gap.joined rest same (.word text) rfl text rfl
    rw [List.singleton_append, List.singleton_append, read_first words text next,
      read_first words text (by simp)]
    exact .later _ (added_flag false raw name plain after)
  | .word text :: x :: before, true, gap => by
    have other : x ≠ .separator := by
      rintro rfl
      exact gap.ended (by simp)
    have next (rest : List Item) : ∀ items, x :: rest ≠ .separator :: items :=
      fun items same ↦ other (List.cons.inj same).1
    simp only [List.cons_append]
    rw [read_first words text (next _), read_first words text (next _)]
    exact .later _ (read_insert words raw name plain (x :: before) false gap.tail)
  | .word text :: before, false, gap => by
    rw [List.cons_append, List.cons_append, read_further, read_further]
    exact .later _ (read_insert words raw name plain before false gap.tail)
  | .option given p name' attached :: before, wanted, gap => by
    cases g.optionReading given p name' attached with
    | alone told reads => exact reads.added (read_insert words raw name plain before wanted gap.tail)
    | wrong c same =>
      exact added_of_eq (same wanted _) (same wanted _)
    | awaiting awaits taken c other =>
      -- The next argument is the value; the flag cannot be put before it.
      match before, gap with
      | [], gap => exact absurd awaits (gap.awaited _ rfl)
      | .word text :: before, gap =>
        obtain ⟨told, reads⟩ := taken text
        exact reads.added (read_insert words raw name plain before wanted gap.tail.tail)
      | .option .. :: _, _ | .unknown _ :: _, _ | .separator :: _, _ =>
        exact added_of_eq (other wanted _ fun _ _ ↦ nofun) (other wanted _ fun _ _ ↦ nofun)

/-! ### Arguments of a command -/

/-- A flag can be put between the arguments. -/
structure Room (g : Grammar) (before after : List String) : Prop where
  ended : separatorText ∉ before
  awaited : ∀ s ∈ before.getLast?, ∀ item, g.classify s = .ok item → ¬item.Awaits g
  joined : after.head? = some separatorText →
    ∀ s ∈ before.getLast?, ∀ text, g.classify s ≠ .ok (.word text)

/-- A flag can be put in front of all arguments. -/
theorem room_nil (g : Grammar) (after : List String) : g.Room [] after :=
  ⟨List.not_mem_nil, nofun, fun _ ↦ nofun⟩

private theorem classifyAll_cons {s : String} (other : s ≠ separatorText) {item : Item}
    (known : g.classify s = .ok item) (rest : List String) :
    g.classifyAll (s :: rest) = (g.classifyAll rest).map (item :: ·) := by
  rw [classifyAll, if_neg other, known]

private theorem separator_notMem {args : List String} (ended : separatorText ∉ args)
    {items : List Item}
    (h : g.classifyAll args = .ok items) : .separator ∉ items := by
  induction args generalizing items with
  | nil =>
    cases h
    exact List.not_mem_nil
  | cons s args ih =>
    have other : s ≠ separatorText := fun same ↦ ended (same ▸ List.mem_cons_self)
    obtain ⟨x, xs, first, others, rfl⟩ := of_classifyAll_cons other h
    exact List.not_mem_cons_of_ne_of_not_mem (of_classify first).2.symm
      (ih (fun mem ↦ ended (List.mem_cons_of_mem _ mem)) others)

private theorem getLast?_of_classifyAll {args : List String} (ended : separatorText ∉ args)
    {items : List Item} (h : g.classifyAll args = .ok items) :
    ∀ x ∈ items.getLast?, ∃ s ∈ args.getLast?, g.classify s = .ok x := by
  rcases List.eq_nil_or_concat args with rfl | ⟨first, s, rfl⟩
  · cases h
    exact nofun
  · rw [List.concat_eq_append] at ended h ⊢
    have other : s ≠ separatorText := by
      rintro rfl
      exact ended (List.mem_append_right _ List.mem_cons_self)
    have others : separatorText ∉ first := fun mem ↦ ended (List.mem_append_left _ mem)
    obtain ⟨xs, ys, rfl, -, ⟨mem, -⟩ | ⟨-, last⟩⟩ := of_classifyAll_append h
    · exact absurd mem others
    · obtain ⟨y, zs, item, none, rfl⟩ := of_classifyAll_cons other last
      cases none
      intro x hx
      refine ⟨s, List.getLast?_concat, ?_⟩
      rw [item, ← Option.some.inj (List.getLast?_concat.symm.trans hx)]

private theorem head?_of_separator {args : List String} {rest : List Item}
    (h : g.classifyAll args = .ok (.separator :: rest)) : args.head? = some separatorText := by
  cases args with
  | nil => cases h
  | cons s args =>
    by_cases separator : s = separatorText
    · rw [separator]
      rfl
    · obtain ⟨x, xs, first, -, same⟩ := of_classifyAll_cons separator h
      exact absurd (List.cons.inj same).1.symm (of_classify first).2

private theorem Room.gap {a b : List String} (room : g.Room a b) {before after : List Item}
    (ha : g.classifyAll a = .ok before) (hb : g.classifyAll b = .ok after) :
    Gap g before after where
  ended := separator_notMem room.ended ha
  awaited x hx := by
    obtain ⟨s, hs, item⟩ := getLast?_of_classifyAll room.ended ha x hx
    exact room.awaited s hs x item
  joined rest starts x hx text same := by
    obtain ⟨s, hs, item⟩ := getLast?_of_classifyAll room.ended ha x hx
    rw [starts] at hb
    exact room.joined (head?_of_separator hb) s hs text (same ▸ item)

/-- With one more flag the arguments of a command say one more step, or the same if they are complained
about. -/
theorem steps_insert (words : g.firstWordTakesRest = false) {text : String} {o : OptionSpec}
    (plain : o.takesValue = false) (known : g.classify text = .ok (.option text o text none))
    (other : text ≠ separatorText) {a b : List String} (room : g.Room a b) :
    Added (.flag o) (g.steps (a ++ b)) (g.steps (a ++ text :: b)) := by
  rw [steps, steps, classifyAll_append room.ended, classifyAll_append room.ended,
    classifyAll_cons other known]
  cases ha : g.classifyAll a with
  | error c => exact .same _
  | ok before =>
    cases hb : g.classifyAll b with
    | error c => exact .same _
    | ok after => exact read_insert words text text plain before true (room.gap ha hb)

/-! ### Arguments that are handed on -/

private theorem read_taking (takes : g.firstWordTakesRest = true) (text : String)
    (items : List Item) :
    g.read true (.word text :: items) = [.rest text (items.map Item.raw)] := by
  cases items with
  | nil => simp [read, takes]
  | cons x items => cases x <;> simp [read, takes]

private theorem read_separator_taking (takes : g.firstWordTakesRest = true) (text : String)
    (items : List Item) :
    g.read true (.separator :: .word text :: items) =
      [.rest separatorText (text :: items.map Item.raw)] := by
  simp [read, takes]

private theorem read_separator {items : List Item}
    (next : ∀ text rest, items ≠ .word text :: rest) :
    g.read true (.separator :: items) = .extra separatorText :: g.read true items := by
  cases items with
  | nil => rfl
  | cons x items =>
    cases x with
    | word text => exact absurd rfl (next text items)
    | _ => rfl

/-- A word among the items takes along what stands behind it, and it would take along whatever else may
stand there. -/
def HandsOn (g : Grammar) (word : String) (others : List String) (items : List Item) : Prop :=
  ∃ before after said, items = before ++ .word word :: after ∧ others = after.map Item.raw ∧
    ∀ later : List Item,
      g.read true (before ++ .word word :: later) = said ++ [.rest word (later.map Item.raw)]

private theorem handsOn_word (takes : g.firstWordTakesRest = true) (word : String)
    (items : List Item) :
    g.HandsOn word (items.map Item.raw) (.word word :: items) :=
  ⟨[], items, [], rfl, rfl, fun later ↦ read_taking takes word later⟩

private theorem HandsOn.separator {word : String} {others : List String} {items : List Item}
    (h : g.HandsOn word others items) (next : ∀ text rest, items ≠ .word text :: rest) :
    g.HandsOn word others (.separator :: items) := by
  obtain ⟨before, after, said, rfl, behind, same⟩ := h
  refine ⟨.separator :: before, after, .extra separatorText :: said, rfl, behind, fun later ↦ ?_⟩
  have next : ∀ text rest, before ++ .word word :: later ≠ .word text :: rest := by
    cases before with
    | nil => exact absurd rfl (next word after)
    | cons x before =>
      intro text rest same
      exact next text (before ++ .word word :: after) (by rw [(List.cons.inj same).1]; rfl)
  rw [List.cons_append, read_separator next, same, List.cons_append]

private theorem Reads.handsOn {front : List Item} {told : List Step} (reads : g.Reads front told)
    {word : String} {others : List String} {items : List Item} (h : g.HandsOn word others items) :
    g.HandsOn word others (front ++ items) := by
  obtain ⟨before, after, said, rfl, behind, same⟩ := h
  refine ⟨front ++ before, after, told ++ said, (List.append_assoc ..).symm, behind, fun later ↦ ?_⟩
  rw [List.append_assoc, reads.read, same, List.append_assoc]

private theorem Reads.rest_mem {front : List Item} {told : List Step} (reads : g.Reads front told)
    {word : String} {others : List String} {items : List Item}
    (h : .rest word others ∈ g.read true (front ++ items)) :
    .rest word others ∈ g.read true items := by
  rw [reads.read] at h
  exact (List.mem_append.mp h).resolve_left (reads.kept word others)

private theorem rest_notMem_wrong {word : String} {others : List String} {steps : List Step}
    {c : Complaint} (same : steps = [.wrong c]) : .rest word others ∉ steps := by
  simp [same]

/-- What is taken along stands behind the word that takes it, and that word takes along whatever else
may stand there. -/
theorem read_rest (takes : g.firstWordTakesRest = true) {word : String}
    (other : word ≠ separatorText) {others : List String} :
    ∀ items : List Item, .rest word others ∈ g.read true items → g.HandsOn word others items
  | [], h => by simp [read] at h
  | .unknown text :: items, h =>
    (reads_unknown text).handsOn (read_rest takes other items ((reads_unknown text).rest_mem h))
  | .word text :: items, h => by
    rw [read_taking takes] at h
    obtain ⟨rfl, rfl⟩ : word = text ∧ others = items.map Item.raw := by simpa using h
    exact handsOn_word takes word items
  | .separator :: items, h => by
    by_cases starts : ∃ text rest, items = .word text :: rest
    · obtain ⟨text, rest, rfl⟩ := starts
      rw [read_separator_taking takes] at h
      have same : word = separatorText := (Step.rest.inj (List.mem_singleton.mp h)).1
      exact absurd same other
    · have next (text : String) (rest : List Item) : items ≠ .word text :: rest :=
        fun same ↦ starts ⟨text, rest, same⟩
      rw [read_separator next] at h
      exact (read_rest takes other items (by simpa using h)).separator next
  | .option raw o name attached :: items, h => by
    cases g.optionReading raw o name attached with
    | alone told reads => exact reads.handsOn (read_rest takes other items (reads.rest_mem h))
    | wrong c same => exact absurd h (rest_notMem_wrong (same true items))
    | awaiting awaits taken c wrong =>
      match items, h with
      | .word text :: items, h =>
        obtain ⟨told, reads⟩ := taken text
        exact reads.handsOn (read_rest takes other items (reads.rest_mem h))
      | [], h | .option .. :: _, h | .unknown _ :: _, h | .separator :: _, h =>
        exact absurd h (rest_notMem_wrong (wrong true _ nofun))

private theorem read_rest_of_alone (takes : g.firstWordTakesRest = true) {word : String}
    (other : word ≠ separatorText) {before : List Item}
    (h : .rest word [] ∈ g.read true (before ++ [.word word])) :
    ∃ said, ∀ later : List Item,
      g.read true (before ++ .word word :: later) = said ++ [.rest word (later.map Item.raw)] := by
  obtain ⟨before', after, said, items, nothing, same⟩ := read_rest takes other _ h
  cases List.map_eq_nil_iff.mp nothing.symm
  cases (List.append_inj' items rfl).1
  exact ⟨said, same⟩

private theorem classifyAll_behind {word : String} (plain : g.classify word = .ok (.word word))
    (other : word ≠ separatorText) {before : List String} {items : List Item}
    (h : g.classifyAll (before ++ [word]) = .ok items) :
    ∃ xs, items = xs ++ [.word word] ∧
      ((∀ args, g.classifyAll (before ++ word :: args) =
          (g.classifyAll args).map fun ys ↦ xs ++ .word word :: ys) ∨
        ∀ args, g.classifyAll (before ++ word :: args) =
          .ok (xs ++ .word word :: args.map .word)) := by
  obtain ⟨xs, ys, rfl, first, ⟨ended, rfl⟩ | ⟨ended, last⟩⟩ := of_classifyAll_append h
  · refine ⟨xs, rfl, .inr fun args ↦ ?_⟩
    rw [classifyAll_append_of_mem ended, first]
    rfl
  · rw [classifyAll_cons other plain] at last
    cases last
    refine ⟨xs, rfl, .inl fun args ↦ ?_⟩
    rw [classifyAll_append ended, classifyAll_cons other plain, first]
    cases g.classifyAll args <;> rfl

/-- What is handed on stands behind the word that takes it along, and that word would take along nothing
if nothing came behind it. -/
theorem exists_before_of_rest (takes : g.firstWordTakesRest = true) {word : String}
    (other : word ≠ separatorText) {args others : List String}
    (h : .rest word others ∈ g.steps args) :
    ∃ before, args = before ++ word :: others ∧ .rest word [] ∈ g.steps (before ++ [word]) := by
  unfold steps at h
  cases all : g.classifyAll args with
  | error c => simp [all] at h
  | ok items =>
    rw [all] at h
    obtain ⟨before, after, said, rfl, rfl, same⟩ := read_rest takes other items h
    have given : args = before.map Item.raw ++ word :: after.map Item.raw := by
      rw [← raw_of_classifyAll all, List.map_append, List.map_cons]
      rfl
    refine ⟨before.map Item.raw, given, ?_⟩
    rw [given, List.append_cons] at all
    obtain ⟨xs, ys, items, first, -⟩ := of_classifyAll_append all
    have length : (before ++ [Item.word word]).length = xs.length := by
      have raw := congrArg List.length (raw_of_classifyAll first)
      simpa using raw.symm
    have same_items : xs = before ++ [.word word] := by
      rw [List.append_cons] at items
      exact (List.append_inj items length).1.symm
    have alone : g.steps (before.map Item.raw ++ [word]) = said ++ [.rest word []] := by
      rw [steps, first, same_items]
      exact same []
    rw [alone]
    exact List.mem_append_right _ List.mem_cons_self

/-- One more argument behind a word that takes the rest along is handed on with the rest, unless some
other argument is complained about anyway. -/
theorem steps_handed (takes : g.firstWordTakesRest = true) {word : String}
    (plain : g.classify word = .ok (.word word)) (other : word ≠ separatorText)
    {before : List String} (h : .rest word [] ∈ g.steps (before ++ [word])) {text : String}
    {item : Item} (known : g.classify text = .ok item) (unlike : text ≠ separatorText)
    {a b : List String} (ended : separatorText ∉ a) :
    g.steps (before ++ word :: (a ++ text :: b)) = g.steps (before ++ word :: (a ++ b)) ∨
      ∃ said, g.steps (before ++ word :: (a ++ b)) = said ++ [.rest word (a ++ b)] ∧
        g.steps (before ++ word :: (a ++ text :: b)) = said ++ [.rest word (a ++ text :: b)] := by
  unfold steps at h ⊢
  cases all : g.classifyAll (before ++ [word]) with
  | error c => simp [all] at h
  | ok items =>
    rw [all] at h
    obtain ⟨xs, rfl, each | none⟩ := classifyAll_behind plain other all
    · obtain ⟨said, same⟩ := read_rest_of_alone takes other h
      rw [each, each, classifyAll_append ended, classifyAll_append ended,
        classifyAll_cons unlike known]
      cases ha : g.classifyAll a with
      | error c => exact .inl rfl
      | ok before =>
        cases hb : g.classifyAll b with
        | error c => exact .inl rfl
        | ok after =>
          refine .inr ⟨said, (same _).trans ?_, (same _).trans ?_⟩
          · rw [List.map_append, raw_of_classifyAll ha, raw_of_classifyAll hb]
          · rw [List.map_append, List.map_cons, raw_of_classifyAll ha, (of_classify known).1,
              raw_of_classifyAll hb]
    · obtain ⟨said, same⟩ := read_rest_of_alone takes other h
      have words (args : List String) : (args.map Item.word).map Item.raw = args := by
        rw [List.map_map]
        exact List.map_id args
      rw [none, none]
      exact .inr ⟨said, (same _).trans (by rw [words]), (same _).trans (by rw [words])⟩

end Grammar
end DecimalMachine.CommandLine
