import DecimalMachine.Text.Path
import DecimalMachine.Text.Quoted

/-!
# Files

A program file is read whole, a listing may be written to a file, and the directory of a log is made with
all directories on the way to it. What can go wrong with a path has a number and words. A tree of files
says what happens on a path: it is walked name by name, each through a directory.
-/

namespace DecimalMachine.CommandLine

open Text

export Text (pathNames normalPath)

/-- Why a file cannot be opened. -/
inductive FileFault where
  | missing
  | isDirectory
  | notDirectory
  /-- Something stands already where a directory is to be made. -/
  | occupied
  | nameTooLong
  /-- A path with a null character in it. -/
  | nullCharacter
  | other (number : Nat) (words : String)
  deriving DecidableEq, Repr

namespace FileFault

/-- The number of a fault. -/
def number : FileFault → Nat
  | missing => 2
  | isDirectory => 21
  | notDirectory => 20
  | occupied => 17
  | nameTooLong => 36
  | nullCharacter => 22
  | other number _ => number

/-- The words for a fault. -/
def words : FileFault → String
  | missing => "No such file or directory"
  | isDirectory => "Is a directory"
  | notDirectory => "Not a directory"
  | occupied => "File exists"
  | nameTooLong => "File name too long"
  | nullCharacter => "embedded null byte"
  | other _ words => words

/-- How a fault on a path is told: by number, words and path; a path that is no path at all is not shown. -/
def message (f : FileFault) (path : String) : String :=
  match f with
  | nullCharacter => f.words
  | f => "[Errno " ++ toString f.number ++ "] " ++ f.words ++ ": " ++ quoted path

end FileFault

/-- What the files around a command do: give their bytes, and take new ones. -/
structure Files where
  read : String → Except FileFault ByteArray
  /-- Why no file can be written at a path, if none can. -/
  refusal : String → Option FileFault

/-! ## Trees -/

/-- Files and directories, each with the names that lead to it from the working directory. A name of two
dots at the front leads out of it, and a slash at the front starts from the root. -/
structure FileTree where
  files : List (List String × ByteArray)
  directories : List (List String)

/-- A place found on a path. -/
inductive Place where
  | directory (names : List String)
  | file (bytes : ByteArray)

namespace FileTree

/-- The name in front of places that are found from the root. -/
def rootName : String := "/"

/-- The directories below the root that every system has. -/
def systemDirectories : List String :=
  ["bin", "dev", "etc", "home", "lib", "opt", "proc", "root", "run", "sbin", "sys", "tmp", "usr", "var"]

/-- The file that is empty whatever is written to it. -/
def nullDevice : List String := [rootName, "dev", "null"]

/-- Whether a place lies in the working directory. -/
def isInside (names : List String) : Bool :=
  match names with
  | first :: _ => first ≠ ".." && first ≠ rootName
  | [] => true

/-- Whether names lead to a directory of the tree, or to one that lies outside but is always there. -/
def hasDirectory (t : FileTree) (names : List String) : Bool :=
  t.directories.any names.isPrefixOf || t.files.any (fun f ↦ names.isPrefixOf f.1) ||
    names.all (· = "..") || names = [rootName] ||
    systemDirectories.any fun d ↦ names = [rootName, d]

/-- The place that names lead to. -/
def entry? (t : FileTree) (names : List String) : Option Place :=
  if names = nullDevice then some (.file ByteArray.empty)
  else
    match t.files.find? fun f ↦ f.1 == names with
    | some f => some (.file f.2)
    | none => if t.hasDirectory names then some (.directory names) else none

/-- The directory above another one. There is none above the root but the root itself. -/
def above (names : List String) : List String :=
  if names = [rootName] then names
  else
    match names.getLast? with
    | none => [".."]
    | some last => if last = ".." then names ++ [".."] else names.dropLast

/-- One name further from a place. -/
def advance (t : FileTree) (name : String) : Place → Except FileFault Place
  | .file _ => .error .notDirectory
  | .directory names =>
    if name = "" ∨ name = "." then .ok (.directory names)
    else if name = ".." then .ok (.directory (above names))
    else if 255 < name.utf8ByteSize then .error .nameTooLong
    else
      match t.entry? (names ++ [name]) with
      | some p => .ok p
      | none => .error .missing

/-- The place where a path starts. -/
def origin (path : String) : Place := .directory (if pathRoot path = "" then [] else [rootName])

/-- The place that names lead to. -/
def walk (t : FileTree) (start : Place) (names : List String) : Except FileFault Place :=
  names.foldlM (fun p n ↦ t.advance n p) start

/-- What is wrong with a path as a text. -/
def textFault? (path : String) : Option FileFault :=
  if path.toList.contains (Char.ofNat 0) then some .nullCharacter
  else if path = "" then some .missing
  else if 4096 ≤ path.utf8ByteSize then some .nameTooLong
  else none

/-- The bytes of the file at a path. -/
def read (t : FileTree) (path : String) : Except FileFault ByteArray :=
  match textFault? path with
  | some f => .error f
  | none =>
    match t.walk (origin path) (pathNames path) with
    | .error f => .error f
    | .ok (.file bytes) => .ok bytes
    | .ok (.directory _) => .error .isDirectory

/-- Names without the empty ones at their end. -/
def dropSlashes (names : List String) : List String :=
  (names.reverse.dropWhile (· = "")).reverse

/-- Why no file can be written at a path. The directory it is to stand in comes first; then the path
must not end in a slash, nor be that of a directory. -/
def refusal (t : FileTree) (path : String) : Option FileFault :=
  match textFault? path with
  | some f => some f
  | none =>
    let names := dropSlashes (pathNames path)
    match t.walk (origin path) names.dropLast with
    | .error f => some f
    | .ok (.file _) => some .notDirectory
    | .ok place =>
      if names ≠ pathNames path then some .isDirectory
      else
        match t.advance (names.getLastD "") place with
        | .ok (.file _) => none
        | .ok (.directory _) => some .isDirectory
        | .error .missing => none
        | .error f => some f

/-- The names at which a file written at a path stands, if that is in the working directory. -/
def target? (t : FileTree) (path : String) : Option (List String) :=
  let names := pathNames path
  match t.walk (origin path) names.dropLast with
  | .ok (.directory above) => some (above ++ [names.getLastD ""]) |>.filter isInside
  | _ => none

/-- The names of the directory at a path, if that is in the working directory. -/
def directory? (t : FileTree) (path : String) : Option (List String) :=
  match t.walk (origin path) (pathNames path) with
  | .ok (.directory names) => some names |>.filter isInside
  | _ => none

/-- What the files of a tree do. -/
def toFiles (t : FileTree) : Files := ⟨t.read, t.refusal⟩

/-! ## Making directories -/

/-- The tree with a directory of the given name made at the end of other names. -/
def makeDirectory (t : FileTree) (start : Place) (before : List String) (name : String) :
    Except FileFault FileTree :=
  match t.walk start before with
  | .error f => .error f
  | .ok (.file _) => .error .notDirectory
  | .ok (.directory above) =>
    match t.advance name (.directory above) with
    | .ok _ => .error .occupied
    | .error .missing => .ok { t with directories := (above ++ [name]) :: t.directories }
    | .error f => .error f

/-- The tree with a directory made and all directories on the way to it, given its names from the last
to the first, or the fault and the names at which it occurred. A directory that is there already will
do. -/
def makeDirectories (t : FileTree) (start : Place) :
    List String → Except (List String × FileFault) FileTree
  | [] => .ok t
  | name :: before =>
    let names := (name :: before).reverse
    let settle (t : FileTree) (f : FileFault) : Except (List String × FileFault) FileTree :=
      match t.walk start names with
      | .ok (.directory _) => .ok t
      | _ => .error (names, f)
    match t.makeDirectory start before.reverse name with
    | .ok made => .ok made
    | .error .missing =>
      match t.makeDirectories start before with
      | .error e => .error e
      | .ok prepared =>
        match prepared.makeDirectory start before.reverse name with
        | .ok made => .ok made
        | .error f => settle prepared f
    | .error f => settle t f

/-- The tree with the directory of a path, or the path at which it cannot be made and why. -/
def withDirectory (t : FileTree) (path : String) : Except (String × FileFault) FileTree :=
  match textFault? (normalPath path) with
  | some f => .error (normalPath path, f)
  | none =>
    (t.makeDirectories (origin path) (pathSteps path).reverse).mapError fun e ↦
      (pathOf (pathRoot path) e.1, e.2)

end FileTree
end DecimalMachine.CommandLine
