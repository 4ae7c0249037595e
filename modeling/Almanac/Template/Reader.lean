import Almanac.Error
import Almanac.Json.Parts
import Almanac.Json.Reader

/-!
# Reading templates

A template is written as JSON. A rule is an object with a member for each of its
parts, or an array of its parts in order; parts that may be left out may be left
out at the end of an array too. A page is always an object, in which the member
`root` holds the root selectors and every other member the rule of a field.
-/

namespace Almanac

namespace Json

/-- The deepest nesting of arrays and objects that is read. -/
def maxDepth : Nat := 127

/-- Which matches are kept: the first for the text `FIRST`, all for any other
readable value. -/
def keep? (value : Json) : Option Keep :=
  if value.fits (maxDepth - 4) then
    some (if value.text? = some "FIRST" then .first else .all)
  else none

/-- How values are selected. -/
def selectorRule? (value : Json) : Option SelectorRule := do
  let parts ← value.parts? ["selectors", "match", "ignore", "join_separator", "split_separator"]
  return {
    selectors := ← (← parts.lookup "selectors").texts?
    keep := ← part? parts "match" .all keep?
    ignored := ← part? parts "ignore" [] texts?
    joiner := ← part? parts "join_separator" none (nullable? text?)
    splitter := ← part? parts "split_separator" none (nullable? text?) }

/-- How patterns are applied. -/
def patternRule? (value : Json) : Option PatternRule := do
  let parts ← value.parts? ["expressions", "group", "match"]
  return {
    patterns := ← (← parts.lookup "expressions").texts?
    groups := ← part? parts "group" none (nullable? textMembers?)
    keep := ← part? parts "match" .all keep? }

/-- The rule of a field, all of which must be readable. -/
def fieldRule? (value : Json) : Option FieldRule := do
  guard (value.fits (maxDepth - 2))
  let parts ← value.parts? ["xpath", "regex", "formats"]
  return {
    selection := ← (← parts.lookup "xpath").selectorRule?
    pattern := ← part? parts "regex" none (nullable? patternRule?)
    formats := ← part? parts "formats" [] texts? }

/-- The root selectors of a page. -/
def roots? (value : Json) : Option SelectorRule := do
  let parts ← value.parts? ["xpath"]
  (← parts.lookup "xpath").selectorRule?

/-- The rules of a page. Of the rules for one field the last counts, but all of
them must be well formed. -/
def pageRule? : Json → Option PageRule
  | .object members =>
    match members.filter (·.1 == "root") with
    | [(_, root)] => do
      let roots ← root.roots?
      let rules ← (members.filter (·.1 != "root")).mapM (member? fieldRule?)
      return { roots, fields := Dictionary.ofList rules }
    | _ => none
  | _ => none

/-- The template with a name, of whatever fields. -/
def template? (name : String) (value : Json) : Option Template := do
  let parts ← value.parts? ["calendar", "event"]
  return {
    name
    calendar := ← part? parts "calendar" none (nullable? pageRule?)
    event := ← part? parts "event" none (nullable? pageRule?) }

end Json

namespace Template

/-- The rules that make up a template have no field that their page cannot have. -/
def check (t : Template) : Except Error Template :=
  match t.unknownCalendarField?, t.unknownEventField? with
  | some field, _ => .error (.unknownField t.name .calendar field)
  | none, some field => .error (.unknownField t.name .event field)
  | none, none => .ok t

/-- The template with a name and a JSON text. -/
def ofText (name text : String) : Except Error Template :=
  match (Json.read? text).bind (Json.template? name) with
  | some t => t.check
  | none => .error (.templateMalformed name)

/-- The rules of a page, which the template must describe. -/
def page (t : Template) (page : Page) : Except Error PageRule :=
  match t.page? page with
  | some rule => .ok rule
  | none => .error (.unknownPage page.name t.name)

/-- The page with a name and its rules. -/
def pageByName (t : Template) (name : String) : Except Error (Page × PageRule) :=
  match Page.ofName? name with
  | some page => (t.page page).map (page, ·)
  | none => .error (.unknownPage name t.name)

end Template

end Almanac
