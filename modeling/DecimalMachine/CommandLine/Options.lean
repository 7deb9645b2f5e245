import DecimalMachine.Text.Digit
import DecimalMachine.Text.Quoted

/-!
# Options and arguments

Arguments are classified first, each by itself: an option, perhaps with a value attached to it or cut
short to an unambiguous beginning of its name; a word; or the separator, after which all are words.
Then they are read from left to right, and say in that order what takes effect. Complaints are part
of what they say, so that what stands before a complaint still takes effect before it. The separator
itself is never a value: an option that has it attached is given without one.

These are the rules of `argparse` in its releases before 3.11.9 and 3.12.3. Since then an attached
separator is a value like any other text, and no option is given without the value it takes.
-/

namespace DecimalMachine.CommandLine

open Text

/-- An option with its names, of which any will do. -/
structure OptionSpec where
  names : List String
  takesValue : Bool
  deriving DecidableEq, Repr

/-- What is wrong with the arguments. -/
inductive Complaint where
  | ambiguous (given : String) (candidates : List String)
  | valueExpected (option : OptionSpec)
  | valueIgnored (option : OptionSpec) (value : String)
  | integerExpected (option : OptionSpec) (value : String)
  | unknownChoice (argument value : String) (choices : List String)
  | missing (argument : String)
  | unrecognized (arguments : List String)
  deriving DecidableEq, Repr

/-- The names of an option as one. -/
def OptionSpec.title (o : OptionSpec) : String := "/".intercalate o.names

/-- How a complaint is told. -/
def Complaint.message : Complaint → String
  | ambiguous given candidates =>
    "ambiguous option: " ++ given ++ " could match " ++ ", ".intercalate candidates
  | valueExpected o => "argument " ++ o.title ++ ": expected one argument"
  | valueIgnored o value =>
    "argument " ++ o.title ++ ": ignored explicit argument " ++ quoted value
  | integerExpected o value => "argument " ++ o.title ++ ": invalid int value: " ++ quoted value
  | unknownChoice argument value choices =>
    "argument " ++ argument ++ ": invalid choice: " ++ quoted value ++ " (choose from " ++
      ", ".intercalate (choices.map quoted) ++ ")"
  | missing argument => "the following arguments are required: " ++ argument
  | unrecognized arguments => "unrecognized arguments: " ++ " ".intercalate arguments

/-- The options that are known, and whether the first word takes everything after it along. Models
`argparse.ArgumentParser`. -/
structure Grammar where
  options : List OptionSpec
  firstWordTakesRest : Bool
  deriving DecidableEq, Repr

namespace Grammar

/-- Every name with its option, in the order in which they were declared. -/
def named (g : Grammar) : List (String × OptionSpec) :=
  g.options.flatMap fun o ↦ o.names.map fun name ↦ (name, o)

/-- The option of a name. -/
def option? (g : Grammar) (name : String) : Option OptionSpec := g.named.lookup name

end Grammar

/-- An argument by itself; an option may have a text attached to its name. -/
inductive Item where
  | option (raw : String) (option : OptionSpec) (name : String) (attached : Option (List Char))
  | unknown (raw : String)
  | word (raw : String)
  | separator
  deriving DecidableEq, Repr

/-- The argument that ends the options. -/
def separatorText : String := "--"

/-- An argument as it was given. -/
def Item.raw : Item → String
  | option raw _ _ _ => raw
  | unknown raw => raw
  | word raw => raw
  | separator => separatorText

/-- A minus sign and digits, with or without a point among them; a line feed may follow. -/
def looksNegative (cs : List Char) : Bool :=
  match cs with
  | '-' :: cs =>
    let cs := if cs.getLast? = some '\n' then cs.dropLast else cs
    let isDigit (c : Char) : Bool := (digitValue? c).isSome
    match cs.dropWhile isDigit with
    | [] => !cs.isEmpty
    | '.' :: fraction => !fraction.isEmpty && fraction.all isDigit
    | _ => false
  | _ => false

/-- The part of a text before the first equals sign, and the part after it if there is one. -/
def splitEquals (cs : List Char) : List Char × Option (List Char) :=
  match cs.dropWhile (· ≠ '=') with
  | [] => (cs, none)
  | _ :: value => (cs.takeWhile (· ≠ '='), some value)

namespace Grammar

/-- The readings of an argument that is no name: a long name cut short, a single letter with its value
attached, or a name that goes on. Models `argparse.ArgumentParser._get_option_tuples`. -/
def candidates (g : Grammar) (cs : List Char) : List (String × OptionSpec × Option (List Char)) :=
  match cs with
  | '-' :: '-' :: _ =>
    let (start, value) := splitEquals cs
    (g.named.filter fun p ↦ start.isPrefixOf p.1.toList).map fun p ↦ (p.1, p.2, value)
  | _ =>
    g.named.filterMap fun p ↦
      if p.1.toList = cs.take 2 then some (p.1, p.2, some (cs.drop 2))
      else if cs.isPrefixOf p.1.toList then some (p.1, p.2, none)
      else none

/-- What an argument is when it is no name, with or without a value behind an equals sign. -/
def classifyOther (g : Grammar) (s : String) : Except Complaint Item :=
  match g.candidates s.toList with
  | [(name, o, attached)] => .ok (.option s o name attached)
  | [] =>
    if looksNegative s.toList || s.toList.contains ' ' then .ok (.word s) else .ok (.unknown s)
  | several => .error (.ambiguous s (several.map (·.1)))

/-- What an argument is, the separator aside. Models `argparse.ArgumentParser._parse_optional`. -/
def classify (g : Grammar) (s : String) : Except Complaint Item :=
  match s.toList with
  | '-' :: c :: cs =>
    match g.option? s with
    | some o => .ok (.option s o s none)
    | none =>
      match splitEquals ('-' :: c :: cs) with
      | (start, some value) =>
        let name := String.ofList start
        match g.option? name with
        | some o => .ok (.option s o name (some value))
        | none => g.classifyOther s
      | (_, none) => g.classifyOther s
  | _ => .ok (.word s)

/-- What every argument is; the first that can be read in two ways is complained about. -/
def classifyAll (g : Grammar) : List String → Except Complaint (List Item)
  | [] => .ok []
  | s :: rest =>
    if s = separatorText then .ok (.separator :: rest.map .word)
    else
      match g.classify s with
      | .error c => .error c
      | .ok item => (g.classifyAll rest).map (item :: ·)

end Grammar

/-- Something the arguments say. -/
inductive Step where
  | flag (option : OptionSpec)
  /-- An option with its value; without one if the separator stands in its place. -/
  | value (option : OptionSpec) (text : Option String)
  | word (text : String)
  /-- The first word and everything after it. -/
  | rest (first : String) (others : List String)
  | extra (text : String)
  | wrong (complaint : Complaint)
  deriving DecidableEq, Repr

/-- How an argument ends that begins with an option. -/
inductive GroupEnd where
  /-- The last option stands alone; its value, if it takes one, is the next argument. -/
  | alone (option : OptionSpec)
  | value (option : OptionSpec) (text : Option String)
  deriving DecidableEq, Repr

/-- The value in a text attached to an option, if it is not the separator. From
`ArgumentParser._get_values`. -/
def attachedValue (cs : List Char) : Option String :=
  if cs = separatorText.toList then none else some (String.ofList cs)

namespace Grammar

/-- Reads the text attached to an option. An option that takes a value takes it whole. Single letters
that take none may be followed by further letters, each the name of an option: the flags read on the
way, and how it ends. -/
def readGroup (g : Grammar) (o : OptionSpec) (single : Bool) (flags : List OptionSpec) :
    List Char → Except Complaint (List OptionSpec × GroupEnd)
  | [] =>
    if o.takesValue then .ok (flags, .value o (attachedValue [])) else .error (.valueIgnored o "")
  | c :: cs =>
    if o.takesValue then .ok (flags, .value o (attachedValue (c :: cs)))
    else
      match if single then g.option? (String.ofList ['-', c]) else none with
      | none => .error (.valueIgnored o (String.ofList (c :: cs)))
      | some next =>
        match cs with
        | [] => .ok (flags ++ [o], .alone next)
        | cs => g.readGroup next true (flags ++ [o]) cs
termination_by cs => cs.length

/-- Whether a name is a single letter behind a single dash. -/
def isSingle (name : String) : Bool :=
  match name.toList with
  | _ :: '-' :: _ => false
  | _ => true

/-- The reading of one argument that begins with an option. Models `consume_optional` in
`argparse.ArgumentParser._parse_known_args`. -/
def readOption (g : Grammar) (o : OptionSpec) (name : String) :
    Option (List Char) → Except Complaint (List OptionSpec × GroupEnd)
  | none => .ok ([], .alone o)
  | some cs => g.readGroup o (isSingle name) [] cs

/-- What classified arguments say, from left to right. Until a first word is found, `wanted` holds. The
separator next to the first word is dropped unless that word takes everything along. Models
`argparse.ArgumentParser._parse_known_args`. -/
def read (g : Grammar) (wanted : Bool) : List Item → List Step
  | [] => []
  | .option _ o name attached :: items =>
    match g.readOption o name attached with
    | .error c => [.wrong c]
    | .ok (flags, .value p text) => flags.map .flag ++ .value p text :: g.read wanted items
    | .ok (flags, .alone p) =>
      if p.takesValue then
        match items with
        | .word text :: items => flags.map .flag ++ .value p (some text) :: g.read wanted items
        | _ => [.wrong (.valueExpected p)]
      else flags.map .flag ++ .flag p :: g.read wanted items
  | .unknown raw :: items => .extra raw :: g.read wanted items
  | .word text :: items =>
    if !wanted then .extra text :: g.read false items
    else if g.firstWordTakesRest then [.rest text (items.map Item.raw)]
    else
      match items with
      | .separator :: items => .word text :: g.read false items
      | items => .word text :: g.read false items
  | .separator :: items =>
    match wanted, items with
    | true, .word text :: items =>
      if g.firstWordTakesRest then [.rest separatorText (text :: items.map Item.raw)]
      else .word text :: g.read false items
    | _, items => .extra separatorText :: g.read wanted items

/-- What arguments say. An argument that can be read in two ways is all they say. -/
def steps (g : Grammar) (args : List String) : List Step :=
  match g.classifyAll args with
  | .error c => [.wrong c]
  | .ok items => g.read true items

end Grammar
end DecimalMachine.CommandLine
