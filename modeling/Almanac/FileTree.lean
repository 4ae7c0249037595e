import Almanac.Path

/-!
# File trees

The files and directories below the root, by the names that lead to them, and what a path leads
to. A path that begins with a slash is followed from the root, any other from the working
directory; a step back from the root stays there. No entry is a link to another place.
-/

namespace Almanac

open Text

/-- What is found at a place. -/
inductive FileTree.Entry where
  | file (content : List UInt8)
  | directory
  deriving Repr, DecidableEq, Inhabited

/-- Why no file is found at a path. -/
inductive PathError where
  | missing
  /-- The path goes through something that is no directory. -/
  | notDirectory
  /-- The path leads to a directory. -/
  | isDirectory
  deriving Repr, DecidableEq, Inhabited

/-- The text of an error. -/
def PathError.message : PathError → String
  | missing => "No such file or directory (os error 2)"
  | notDirectory => "Not a directory (os error 20)"
  | isDirectory => "Is a directory (os error 21)"

/-- The files and directories below the root, and the directory that is worked in. Unless told
otherwise that is an empty directory, and there is nothing else. -/
structure FileTree where
  entries : List (List String × FileTree.Entry) := [(["work"], .directory)]
  /-- The names that lead from the root to the working directory. -/
  working : List String := ["work"]
  deriving Repr, DecidableEq, Inhabited

namespace FileTree

/-- What the names lead to; no names lead to the root. -/
def entryAt? (t : FileTree) (names : List String) : Option Entry :=
  if names.isEmpty then some .directory else t.entries.lookup names

/-- Puts something at a place. -/
def put (t : FileTree) (names : List String) (entry : Entry) : FileTree :=
  { t with entries := (names, entry) :: t.entries.filter (·.1 != names) }

/-- Takes away what is at a place. -/
def erase (t : FileTree) (names : List String) : FileTree :=
  { t with entries := t.entries.filter (·.1 != names) }

/-! ## Paths -/

/-- Follows a step of a path from a directory. -/
def followStep (t : FileTree) (names : List String) (step : String) :
    Except PathError (List String) :=
  match t.entryAt? names with
  | some .directory =>
    if step = "" || step = "." then .ok names
    else if step = ".." then .ok names.dropLast
    else if (t.entryAt? (names ++ [step])).isSome then .ok (names ++ [step])
    else .error .missing
  | some (.file _) => .error .notDirectory
  | none => .error .missing

/-- Where a path begins: at the root, if it begins with a slash. -/
def start (t : FileTree) (path : String) : List String :=
  if beginsWith path "/" then [] else t.working

/-- The names that a path leads to. -/
def follow (t : FileTree) (path : String) : Except PathError (List String) :=
  (Path.steps path).foldlM t.followStep (t.start path)

/-- The content of the file that a path leads to. -/
def read (t : FileTree) (path : String) : Except PathError (List UInt8) := do
  if path = "" then throw .missing
  let names ← t.follow path
  match t.entryAt? names with
  | some (.file content) => return content
  | some .directory => throw .isDirectory
  | none => throw .missing

/-! ## Changes -/

/-- Follows a step of a path, and makes a directory where nothing is. -/
def makeStep? (place : FileTree × List String) (step : String) : Option (FileTree × List String) :=
  let (t, names) := place
  match t.followStep names step with
  | .ok names => some (t, names)
  | .error _ =>
    if t.entryAt? names = some .directory then
      some (t.put (names ++ [step]) .directory, names ++ [step])
    else none

/-- Makes a directory, and those on the way to it. -/
def makeDirectory? (t : FileTree) (path : String) : Option FileTree := do
  let (t, names) ← (Path.steps path).foldlM makeStep? (t, t.start path)
  if t.entryAt? names = some .directory then some t else none

/-- Writes a file, and makes the directories on the way to it. -/
def write? (t : FileTree) (path : String) (content : List UInt8) : Option FileTree :=
  match (Path.steps path).getLast?.bind Path.part? with
  | some (.name file) => do
    let (t, names) ← (Path.steps path).dropLast.foldlM makeStep? (t, t.start path)
    let place := names ++ [file]
    if t.entryAt? names = some .directory && t.entryAt? place != some .directory then
      some (t.put place (.file content))
    else none
  | _ => none

/-- Removes a file. -/
def remove? (t : FileTree) (path : String) : Option FileTree := do
  let names ← (t.follow path).toOption
  match t.entryAt? names with
  | some (.file _) => some (t.erase names)
  | _ => none

end FileTree

end Almanac
