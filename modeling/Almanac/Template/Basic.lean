import Almanac.Dictionary

/-!
# Site templates

A template says where the events of one site are found: on a calendar page the
links to the events, on an event page the fields of an event. Each page has root
selectors, which pick the elements that are searched, and a rule for each field.
-/

namespace Almanac

/-- Which of several matches are kept. -/
inductive Keep where
  | all
  | first
  deriving Repr, DecidableEq, Inhabited

namespace Keep

/-- The matches that are kept. -/
def apply {α : Type} : Keep → List α → List α
  | all, matches_ => matches_
  | first, matches_ => matches_.take 1

end Keep

/-- Where the values of a field are found and how they are shaped. -/
structure SelectorRule where
  /-- Selectors, tried in order on every root element. -/
  selectors : List String := []
  keep : Keep := .all
  /-- Values that are dropped. -/
  ignored : List String := []
  /-- The text between the values when they become one value. -/
  joiner : Option String := none
  /-- The text at which each value is cut; without effect beside a joiner. -/
  splitter : Option String := none
  deriving Repr, DecidableEq, Inhabited

/-- What a field keeps of each of its values. -/
structure PatternRule where
  /-- Patterns, each of which is tried on every value. -/
  patterns : List String := []
  /-- The names under which groups are kept, by the number of the group. -/
  groups : Option (Dictionary String) := none
  keep : Keep := .all
  deriving Inhabited

/-- The rule of one field. -/
structure FieldRule where
  selection : SelectorRule
  pattern : Option PatternRule := none
  /-- Formats of the dates and times in the field. -/
  formats : List String := []
  deriving Inhabited

/-- The rules of one page. -/
structure PageRule where
  /-- How the elements that are searched are found; of it only the selectors and
  which matches are kept matter. -/
  roots : SelectorRule := {}
  fields : Dictionary FieldRule := {}
  deriving Inhabited

/-! ## Pages and fields -/

/-- The pages that a template can describe. -/
inductive Page where
  | calendar
  | event
  deriving Repr, DecidableEq, Inhabited

namespace Page

/-- The name of a page. -/
def name : Page → String
  | calendar => "calendar"
  | event => "event"

/-- The page with a name. -/
def ofName? (s : String) : Option Page := [calendar, event].find? (·.name == s)

end Page

/-- The only field of a calendar page. -/
def eventLinkKey : String := "event_url"

/-- The fields of an event page. -/
inductive EventField where
  | title
  | perex
  | date
  | time
  | datetime
  | location
  | gps
  | organizer
  | types
  deriving Repr, DecidableEq, Inhabited

namespace EventField

/-- All fields, in the order in which they are extracted. -/
def all : List EventField :=
  [title, perex, date, time, datetime, location, gps, organizer, types]

/-- The name of a field. -/
def key : EventField → String
  | title => "title"
  | perex => "perex"
  | date => "date"
  | time => "time"
  | datetime => "datetime"
  | location => "location"
  | gps => "gps"
  | organizer => "organizer"
  | types => "types"

/-- The field with a name. -/
def ofKey? (s : String) : Option EventField := all.find? (·.key == s)

theorem ofKey?_key (field : EventField) : ofKey? field.key = some field := by
  cases field <;> rfl

/-- Whether a field may well have several values. -/
def isMultiValued : EventField → Bool
  | datetime | types => true
  | _ => false

end EventField

/-! ## Templates -/

/-- The rules of one site. -/
structure Template where
  /-- The name of the site. -/
  name : String
  calendar : Option PageRule := none
  event : Option PageRule := none
  deriving Inhabited

namespace Template

/-- The rules of a page. -/
def page? (t : Template) : Page → Option PageRule
  | .calendar => t.calendar
  | .event => t.event

/-- The rule of a field of the event page. -/
def eventField? (t : Template) (field : EventField) : Option FieldRule :=
  t.event.bind (·.fields.get? field.key)

/-- The formats of a field of the event page. -/
def formats (t : Template) (field : EventField) : List String :=
  (t.eventField? field).elim [] (·.formats)

/-- A field that the calendar page cannot have: the first in order. -/
def unknownCalendarField? (t : Template) : Option String :=
  (t.calendar.elim [] (·.fields.keys)).find? (· ≠ eventLinkKey)

/-- A field that the event page cannot have: the first in order. -/
def unknownEventField? (t : Template) : Option String :=
  (t.event.elim [] (·.fields.keys)).find? fun key => (EventField.ofKey? key).isNone

end Template

end Almanac
