import DecimalMachine.CommandLine.Invocation
import DecimalMachine.Proofs.Text.Numerals
import Mathlib.Data.List.Forall2

/-!
# Arguments for running

An option of the command that runs a program can be written with its value behind an equals sign. Before
the command such an argument is unknown, and is handed on; the command itself knows it, and takes the
value whole. So any inputs, patches and addresses can be asked for, in any order.
-/

namespace DecimalMachine.CommandLine

open Text

/-- The request to run a program with options that all have their values. -/
def RunRequest.full (program : String) (inputs : List Int) (pokes : List String) (peeks : List Int)
    (trace : Bool) : RunRequest :=
  ⟨program, inputs.map .number, pokes.map some, peeks.map .number, trace⟩

/-- An option for running, with its value. -/
inductive RunOption where
  | input (n : Int)
  | poke (text : String)
  | peek (a : Int)

namespace RunOption

/-- What the option is. -/
def spec : RunOption → OptionSpec
  | input _ => inputOption
  | poke _ => pokeOption
  | peek _ => peekOption

/-- The long name of the option. -/
def name : RunOption → String
  | input _ => "--input"
  | poke _ => "--poke"
  | peek _ => "--peek"

/-- The text of the value. -/
def value : RunOption → String
  | input n => decimal n
  | poke text => text
  | peek a => decimal a

/-- The option as an argument. -/
def argument (o : RunOption) : String := o.name ++ "=" ++ o.value

/-- The argument by itself, as the command knows it. -/
def item (o : RunOption) : Item := .option o.argument o.spec o.name (some o.value.toList)

/-- What the argument says. -/
def step (o : RunOption) : Step := .value o.spec (some o.value)

/-- The value of an input. -/
def input? : RunOption → Option Int
  | input n => some n
  | _ => none

/-- The text of a patch. -/
def poke? : RunOption → Option String
  | poke text => some text
  | _ => none

/-- The address of a cell to be shown. -/
def peek? : RunOption → Option Int
  | peek a => some a
  | _ => none

/-- A request with the option added. -/
def add (r : RunRequest) : RunOption → RunRequest
  | input n => { r with inputs := r.inputs ++ [.number n] }
  | poke text => { r with pokes := r.pokes ++ [some text] }
  | peek a => { r with peeks := r.peeks ++ [.number a] }

end RunOption

/-! ### Arguments by themselves -/

private theorem splitEquals_append {start : List Char} (value : List Char) (plain : '=' ∉ start) :
    splitEquals (start ++ '=' :: value) = (start, some value) := by
  simp only [splitEquals, dropWhile_ne_append plain, takeWhile_ne_append plain]

namespace Grammar

variable {g : Grammar}

private theorem option?_of_equals {s : String} (names : ∀ p ∈ g.named, '=' ∉ p.1.toList)
    (attached : '=' ∈ s.toList) : g.option? s = none := by
  rw [option?, List.lookup_eq_none_iff]
  intro p hp
  rw [bne_iff_ne]
  rintro rfl
  exact names p hp attached

variable {rest : List Char} (start : String) (names : ∀ p ∈ g.named, '=' ∉ p.1.toList)
  (long : start.toList = '-' :: '-' :: rest) (plain : '=' ∉ start.toList) (value : String)

include names long plain

private theorem classify_attached :
    g.classify (start ++ "=" ++ value) =
      match g.option? start with
      | some o => .ok (.option (start ++ "=" ++ value) o start (some value.toList))
      | none => g.classifyOther (start ++ "=" ++ value) := by
  have text : (start ++ "=" ++ value).toList = start.toList ++ '=' :: value.toList := by
    simp [String.toList_append]
  have unnamed : g.option? (start ++ "=" ++ value) = none :=
    option?_of_equals names (by simp [text])
  have cut := splitEquals_append value.toList plain
  have back : String.ofList ('-' :: '-' :: rest) = start := by
    rw [← long, String.ofList_toList]
  rw [long] at text cut
  simp only [List.cons_append] at text cut
  cases known : g.option? start with
  | none => simp only [classify, text, unnamed, cut, back, known]
  | some o => simp only [classify, text, unnamed, cut, back, known]

private theorem classify_unknown (unknown : g.option? start = none)
    (apart : g.named.filter (fun p ↦ start.toList.isPrefixOf p.1.toList) = []) :
    ∃ item, g.classify (start ++ "=" ++ value) = .ok item ∧ item.raw = start ++ "=" ++ value := by
  have none_there : g.candidates (start ++ "=" ++ value).toList = [] := by
    have text : (start ++ "=" ++ value).toList = start.toList ++ '=' :: value.toList := by
      simp [String.toList_append]
    have cut := splitEquals_append value.toList plain
    rw [text]
    rw [long] at cut apart ⊢
    simp only [List.cons_append] at cut ⊢
    simp only [candidates, cut, apart, List.map_nil]
  rw [classify_attached start names long plain value, unknown]
  simp only [classifyOther, none_there]
  split
  · exact ⟨_, rfl, rfl⟩
  · exact ⟨_, rfl, rfl⟩

end Grammar

private theorem classifyAll_of_forall₂ {g : Grammar} {args : List String} {items : List Item}
    (each : List.Forall₂ (fun s item ↦ s ≠ separatorText ∧ g.classify s = .ok item) args items) :
    g.classifyAll args = .ok items := by
  induction each with
  | nil => rfl
  | cons first _ ih =>
    rw [Grammar.classifyAll, if_neg first.1, first.2, ih]
    rfl

private theorem classify_word (g : Grammar) {s : String}
    (word : ∀ c cs, s.toList ≠ '-' :: c :: cs) :
    g.classify s = .ok (.word s) := by
  unfold Grammar.classify
  split
  · next c cs same => exact absurd same (word c cs)
  · rfl

private theorem ne_separator {s : String} (word : ∀ c cs, s.toList ≠ '-' :: c :: cs) :
    s ≠ separatorText := by
  rintro rfl
  exact word '-' [] rfl

/-! ### Options for running -/

namespace RunOption

private theorem argument_ne_separator (o : RunOption) : o.argument ≠ separatorText := by
  intro same
  have equals : '=' ∈ o.argument.toList := by
    simp [argument, String.toList_append]
  rw [same] at equals
  revert equals
  decide

private theorem mainGrammar_names : ∀ p ∈ mainGrammar.named, '=' ∉ p.1.toList := by
  decide

private theorem runGrammar_names : ∀ p ∈ runGrammar.named, '=' ∉ p.1.toList := by
  decide

private theorem name_long (o : RunOption) : ∃ rest, o.name.toList = '-' :: '-' :: rest := by
  cases o <;> simp only [name] <;> exact ⟨_, rfl⟩

private theorem name_plain (o : RunOption) : '=' ∉ o.name.toList := by
  cases o <;> simp only [name] <;> decide

private theorem classify_argument (o : RunOption) :
    runGrammar.classify o.argument = .ok o.item := by
  obtain ⟨rest, long⟩ := o.name_long
  have known : runGrammar.option? o.name = some o.spec := by
    cases o <;> rfl
  rw [argument, Grammar.classify_attached o.name runGrammar_names long o.name_plain, known]
  rfl

private theorem main_classify_argument (o : RunOption) :
    ∃ item, mainGrammar.classify o.argument = .ok item ∧ item.raw = o.argument := by
  obtain ⟨rest, long⟩ := o.name_long
  have unknown : mainGrammar.option? o.name = none := by
    cases o <;> rfl
  have apart : mainGrammar.named.filter (fun p ↦ o.name.toList.isPrefixOf p.1.toList) = [] := by
    cases o <;> simp only [name] <;> rfl
  exact Grammar.classify_unknown o.name mainGrammar_names long o.name_plain o.value unknown apart

private theorem readOption_attached {o : RunOption} (plain : o.value ≠ separatorText) :
    runGrammar.readOption o.spec o.name (some o.value.toList) =
      .ok ([], .value o.spec (some o.value)) := by
  have takes : o.spec.takesValue = true := by
    cases o <;> rfl
  have kept : attachedValue o.value.toList = some o.value := by
    rw [attachedValue, if_neg (fun same ↦ plain (String.toList_inj.mp same)), String.ofList_toList]
  rw [Grammar.readOption]
  cases value : o.value.toList with
  | nil =>
    rw [value] at kept
    rw [Grammar.readGroup, if_pos takes, kept]
  | cons c cs =>
    rw [value] at kept
    rw [Grammar.readGroup, if_pos takes, kept]

private theorem read_items (wanted : Bool) {options : List RunOption}
    (plain : ∀ o ∈ options, o.value ≠ separatorText) :
    runGrammar.read wanted (options.map item) = options.map step := by
  induction options with
  | nil => rw [List.map_nil, List.map_nil, Grammar.read]
  | cons o os ih =>
    rw [List.map_cons, List.map_cons, item, Grammar.read,
      readOption_attached (plain o List.mem_cons_self)]
    simp only [List.map_nil, List.nil_append, step,
      ih fun p hp ↦ plain p (List.mem_cons_of_mem o hp)]

private theorem read_word (text : String) {items : List Item}
    (next : ∀ rest, items ≠ .separator :: rest) :
    runGrammar.read true (.word text :: items) = .word text :: runGrammar.read false items := by
  rw [Grammar.read, if_neg (by decide), if_neg (by decide)]
  exact next

private theorem add_value (o : RunOption) (r : RunRequest) :
    RunRequest.add o.spec (some o.value) r = .ok (add r o) := by
  cases o with
  | input n =>
    simp only [RunRequest.add, spec, value, if_pos, integerOf, readInteger_decimal]
    rfl
  | poke text =>
    have other : pokeOption ≠ inputOption := by decide
    simp only [RunRequest.add, spec, value, if_neg other, if_pos]
    rfl
  | peek a =>
    have other : peekOption ≠ inputOption := by decide
    have another : peekOption ≠ pokeOption := by decide
    simp only [RunRequest.add, spec, value, if_neg other, if_neg another, integerOf,
      readInteger_decimal]
    rfl

private theorem readSteps_steps (flag : OptionSpec → RunRequest → RunRequest)
    (r : Reading RunRequest)
    (options : List RunOption) :
    readSteps "run" flag RunRequest.add r (options.map step) =
      .ok { r with options := options.foldl add r.options } := by
  induction options generalizing r with
  | nil => rfl
  | cons o os ih =>
    rw [List.map_cons, step, readSteps, add_value]
    simp only [ih, List.foldl_cons]

private theorem foldl_add (r : RunRequest) (options : List RunOption) :
    options.foldl add r =
      { r with
        inputs := r.inputs ++ (options.filterMap input?).map .number
        pokes := r.pokes ++ (options.filterMap poke?).map some
        peeks := r.peeks ++ (options.filterMap peek?).map .number } := by
  induction options generalizing r with
  | nil => simp
  | cons o os ih =>
    rw [List.foldl_cons, ih]
    cases o <;> simp [add, input?, poke?, peek?, List.filterMap_cons]

private theorem classifyAll_arguments {program : String} (options : List RunOption)
    (word : ∀ c cs, program.toList ≠ '-' :: c :: cs) :
    runGrammar.classifyAll (program :: options.map argument) =
      .ok (.word program :: options.map item) := by
  apply classifyAll_of_forall₂
  refine .cons ⟨ne_separator word, classify_word runGrammar word⟩ ?_
  rw [List.forall₂_map_left_iff, List.forall₂_map_right_iff, List.forall₂_same]
  intro o _
  exact ⟨o.argument_ne_separator, o.classify_argument⟩

private theorem main_steps_arguments {program : String} (options : List RunOption)
    (word : ∀ c cs, program.toList ≠ '-' :: c :: cs) :
    mainGrammar.steps ("run" :: program :: options.map argument) =
      [.rest "run" (program :: options.map argument)] := by
  -- No argument can be read in two ways, so that all of them are handed on.
  have handed_on : ∃ items, mainGrammar.classifyAll (options.map argument) = .ok items ∧
      items.map Item.raw = options.map argument := by
    induction options with
    | nil => exact ⟨[], rfl, rfl⟩
    | cons o os ih =>
      obtain ⟨items, others, raw⟩ := ih
      obtain ⟨item, known, same⟩ := o.main_classify_argument
      refine ⟨item :: items, ?_, ?_⟩
      · rw [List.map_cons, Grammar.classifyAll, if_neg o.argument_ne_separator, known, others]
        rfl
      · rw [List.map_cons, List.map_cons, same, raw]
  obtain ⟨items, others, raw⟩ := handed_on
  have command : ∀ c cs, "run".toList ≠ '-' :: c :: cs := by
    intro c cs same
    cases same
  have all : mainGrammar.classifyAll ("run" :: program :: options.map argument) =
      .ok (.word "run" :: .word program :: items) := by
    rw [Grammar.classifyAll, if_neg (ne_separator command), classify_word mainGrammar command,
      Grammar.classifyAll, if_neg (ne_separator word), classify_word mainGrammar word, others]
    rfl
  rw [Grammar.steps, all]
  simp only [Grammar.read]
  simp [mainGrammar, Item.raw, raw]

/-- Any options for running can be given as arguments behind the program. -/
theorem asked_arguments {program : String} {options : List RunOption}
    (word : ∀ c cs, program.toList ≠ '-' :: c :: cs)
    (plain : ∀ o ∈ options, o.value ≠ separatorText) :
    asked ("run" :: program :: options.map argument) =
      .invocation ⟨0, none, .run (.full program (options.filterMap input?)
        (options.filterMap poke?) (options.filterMap peek?) false)⟩ := by
  have steps : runGrammar.steps (program :: options.map argument) =
      .word program :: options.map step := by
    rw [Grammar.steps, classifyAll_arguments options word]
    have next : ∀ rest, options.map item ≠ .separator :: rest := by
      intro rest same
      cases options with
      | nil => cases same
      | cons o os => cases same
    simp only [read_word program next, read_items false plain]
  have read := readSteps_steps (fun _ r ↦ { r with trace := true })
    ⟨⟨"", [], [], [], false⟩, some program, []⟩ options
  rw [foldl_add] at read
  rw [asked, main_steps_arguments options word, askedBy, command, if_pos rfl, readCommand, steps,
    readSteps]
  simp only [read]
  rfl

end RunOption
end DecimalMachine.CommandLine
