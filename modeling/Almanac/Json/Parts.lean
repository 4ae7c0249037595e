import Almanac.Dictionary
import Almanac.Json.Basic

/-!
# Parts of JSON values

Values with parts in known places: an object with a member for each part, or an array
of the parts in order. Each reader returns nothing for a value of another form.
-/

namespace Almanac.Json

/-- The parts of a value under their names: the members of an object with these
names, none of which may be repeated, or the items of an array that has no more
of them. Other members of an object are passed over. -/
def parts? (names : List String) : Json → Option (List (String × Json))
  | .object members =>
    let known := members.filter fun p => names.contains p.1
    if (known.map (·.1)).Nodup then some known else none
  | .array items => if items.length ≤ names.length then some (names.zip items) else none
  | _ => none

/-- A string. -/
def text? : Json → Option String
  | .string text => some text
  | _ => none

/-- An array of strings. -/
def texts? : Json → Option (List String)
  | .array items => items.mapM text?
  | _ => none

/-- The value of a member, beside its key. -/
def member? {α : Type} (read : Json → Option α) (member : String × Json) : Option (String × α) :=
  (read member.2).map (member.1, ·)

/-- An object of strings. -/
def textMembers? : Json → Option (Dictionary String)
  | .object members => (members.mapM (member? text?)).map Dictionary.ofList
  | _ => none

/-- A value or null. -/
def nullable? {α : Type} (read : Json → Option α) : Json → Option (Option α)
  | .null => some none
  | value => (read value).map some

/-- A part that may be left out. -/
def part? {α : Type} (parts : List (String × Json)) (name : String) (default : α)
    (read : Json → Option α) : Option α :=
  match parts.lookup name with
  | none => some default
  | some value => read value

end Almanac.Json
