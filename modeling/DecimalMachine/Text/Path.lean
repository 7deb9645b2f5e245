/-!
# Paths

A path is text: names with slashes between them. Empty names and single dots lead nowhere; the normal
form of a path has neither, and two paths with the same normal form are the same place. Two dots are a
name like any other.
-/

namespace DecimalMachine.Text

/-- The names in a path, empty ones included. -/
def pathNames (path : String) : List String :=
  (path.toList.splitOn '/').map String.ofList

/-- The slashes with which a path starts, as far as they matter: exactly two stay two. -/
def pathRoot (path : String) : String :=
  match path.toList with
  | '/' :: '/' :: '/' :: _ => "/"
  | '/' :: '/' :: _ => "//"
  | '/' :: _ => "/"
  | _ => ""

/-- The names in a path that lead anywhere: at empty names and single dots one stays where one is. -/
def pathSteps (path : String) : List String := (pathNames path).filter fun n ↦ n ≠ "" ∧ n ≠ "."

/-- The path of names behind slashes; what would be empty is a single dot. -/
def pathOf (root : String) (names : List String) : String :=
  let text := root ++ "/".intercalate names
  if text = "" then "." else text

/-- A path without empty names and single dots. -/
def normalPath (path : String) : String := pathOf (pathRoot path) (pathSteps path)

/-- The path of a file in a directory. -/
def pathIn (directory file : String) : String :=
  pathOf (pathRoot directory) (pathSteps directory ++ [file])

end DecimalMachine.Text
