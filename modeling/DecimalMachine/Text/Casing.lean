import DecimalMachine.Text.Casing.Tables

/-!
# Capitalized text

Capitalizing maps the first character to title case and every later one to lower case. A capital
sigma becomes the final sigma at the end of a word: a cased character stands before it and none
after it, characters that the context ignores apart.
-/

namespace DecimalMachine.Text

/-- The single image that a run gives to one of its characters. -/
def CaseRun.image? (r : CaseRun) (n : Nat) : Option Nat :=
  if r.first ≤ n ∧ n ≤ r.last ∧ (n - r.first) % r.stride = 0 then some (n + r.shift).toNat
  else none

/-- The image of a character; characters outside the table are their own image. -/
def CaseTable.apply (t : CaseTable) (c : Char) : List Char :=
  match t.several.lookup c.toNat with
  | some cs => cs.map Char.ofNat
  | none => [((t.runs.findSome? (CaseRun.image? · c.toNat)).map Char.ofNat).getD c]

/-- A sigma ends a word when the nearest noticed character before it is cased and the nearest
noticed one after it is not. The characters before are given nearest first. -/
def endsWord (before after : List Char) : Bool :=
  (before.dropWhile caseIgnorable.contains).head?.any cased.contains &&
    !(after.dropWhile caseIgnorable.contains).head?.any cased.contains

/-- Lower case of a text that follows the given characters, nearest first. -/
def lowerAfter (before : List Char) : List Char → List Char
  | [] => []
  | c :: cs =>
    (if c = 'Σ' then [if endsWord before cs then 'ς' else 'σ'] else lowerTable.apply c) ++
      lowerAfter (c :: before) cs

/-- The first character in title case, all the others in lower case. -/
def capitalizeChars : List Char → List Char
  | [] => []
  | c :: cs => titleTable.apply c ++ lowerAfter [c] cs

/-- A text with its first character in title case and all the others in lower case. -/
def capitalize (s : String) : String := String.ofList (capitalizeChars s.toList)

end DecimalMachine.Text
