import Almanac.Json.Parts
import Almanac.Json.Reader
import Almanac.Json.Writer
import Almanac.Template.Basic

/-!
# Event records

What is known of an event: seven texts, each of which may be missing. The dates and
the types may be several values; they are stored as the text of a JSON array.
-/

namespace Almanac

/-- What is known of an event. -/
structure EventRecord where
  title : Option String := none
  perex : Option String := none
  /-- A JSON array of dates as they are written on the page. -/
  datetime : Option String := none
  location : Option String := none
  /-- Latitude and longitude in degrees, with a comma between them. -/
  gps : Option String := none
  organizer : Option String := none
  /-- A JSON array of types. -/
  types : Option String := none
  deriving Repr, DecidableEq, Inhabited

namespace EventRecord

/-- The fields of a record, in the order in which they are written. -/
def fields : List EventField :=
  [.title, .perex, .datetime, .location, .gps, .organizer, .types]

/-- The text of a field; the date and the time by themselves are not part of a
record. -/
def get (r : EventRecord) : EventField → Option String
  | .title => r.title
  | .perex => r.perex
  | .datetime => r.datetime
  | .location => r.location
  | .gps => r.gps
  | .organizer => r.organizer
  | .types => r.types
  | .date | .time => none

/-- The record with a text for each field. -/
def ofFields (text : EventField → Option String) : EventRecord where
  title := text .title
  perex := text .perex
  datetime := text .datetime
  location := text .location
  gps := text .gps
  organizer := text .organizer
  types := text .types

theorem ofFields_get (r : EventRecord) : ofFields r.get = r := rfl

/-- The text of the field with a name. -/
def getByKey (r : EventRecord) (key : String) : Option String :=
  (EventField.ofKey? key).bind r.get

/-- Whether every field is missing. -/
def isEmpty (r : EventRecord) : Bool := fields.all fun field => (r.get field).isNone

/-! ## Lists of texts -/

/-- The text in which a list of texts is stored. -/
def storeList (texts : List String) : String := Json.storedText (.array (texts.map .string))

/-- The list of texts that a text stores; none for any other text. -/
def loadList? (stored : String) : Option (List String) := (Json.read? stored).bind Json.texts?

/-- The list of texts that a field stores, empty if it stores none. -/
def loadField (stored : Option String) : List String := (stored.bind loadList?).getD []

/-- The dates of the event. -/
def datetimes (r : EventRecord) : List String := loadField r.datetime

/-- The types of the event. -/
def typeList (r : EventRecord) : List String := loadField r.types

/-! ## JSON -/

/-- A text or null. -/
def fieldJson (text : Option String) : Json := text.elim .null .string

/-- A record as an object of all its fields in order. -/
def toJson (r : EventRecord) : Json :=
  .object (fields.map fun field => (field.key, fieldJson (r.get field)))

/-- The JSON text of a record, without spaces. -/
def jsonText (r : EventRecord) : String := r.toJson.compactText

/-- The texts of all fields, in order. -/
def ofTexts? : List (Option String) → Option EventRecord
  | [title, perex, datetime, location, gps, organizer, types] =>
    some { title, perex, datetime, location, gps, organizer, types }
  | _ => none

/-- Whether a value is no array with too few items; fields can be left out of objects
only. -/
def isComplete : Json → Bool
  | .array items => fields.length ≤ items.length
  | _ => true

/-- The record that an object or an array describes. -/
def ofJson? (value : Json) : Option EventRecord := do
  guard (isComplete value)
  let parts ← value.parts? (fields.map EventField.key)
  let texts ← fields.mapM fun field => Json.part? parts field.key none (Json.nullable? Json.text?)
  ofTexts? texts

/-- The record with a JSON text. -/
def ofText? (text : String) : Option EventRecord := (Json.read? text).bind ofJson?

end EventRecord

end Almanac
