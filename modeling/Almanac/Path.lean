import Almanac.Text.Search

/-!
# Paths

A path is a text of steps with slashes between them. Its parts are the names and the steps
back on it, behind the slash or the dot that it may begin with. Empty steps and dots further
on are passed over: a path that ends in slashes and dots has the same parts without them.
-/

namespace Almanac

open Text

/-- A part of a path. -/
inductive PathPart where
  /-- The slash at the front. -/
  | root
  /-- The dot at the front. -/
  | here
  /-- The step back to the directory above. -/
  | back
  | name (text : String)
  deriving Repr, DecidableEq

namespace Path

/-- The steps of a path, between its slashes. -/
def steps (path : String) : List String := splitText "/" path

/-- The part that a path begins with, if it is no name and no step back. -/
def front (path : String) : List PathPart :=
  if beginsWith path "/" then [.root]
  else if (steps path).head? = some "." then [.here]
  else []

/-- The part that a step stands for, unless it is passed over. -/
def part? (step : String) : Option PathPart :=
  if step = "" || step = "." then none
  else if step = ".." then some .back
  else some (.name step)

/-- The parts of a path. -/
def parts (path : String) : List PathPart := front path ++ (steps path).filterMap part?

/-- The name at the end of a path, if its last part is a name. -/
def fileName? (path : String) : Option String :=
  match (parts path).getLast? with
  | some (.name text) => some text
  | _ => none

end Path

end Almanac
