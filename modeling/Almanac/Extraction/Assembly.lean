import Almanac.Event.Record
import Almanac.Extraction.Capture

/-!
# Putting a record together

The date and the time of an event make one value, coordinates are checked, and each
field is reduced to the text that the record holds.
-/

namespace Almanac.Extraction

open Text

/-- The values of the fields that have a rule. -/
abbrev Extracted : Type := EventField → Option (List FieldValue)

/-! ## Dates -/

/-- What stands between a date and a time. -/
def dateTimeSeparator : String := "%;"

/-- The first date, with the first time behind it if there is one. -/
def mergeDate (dates times : List FieldValue) : List FieldValue :=
  match dates, times with
  | [], _ => []
  | date :: _, [] => [.text date.toText]
  | date :: _, time :: _ => [.text (concat [date.toText, dateTimeSeparator, time.toText])]

/-- The values of the dates of the event: where the date has a rule of its own it is
put together with the time. -/
def datetimeValues (extracted : Extracted) : Option (List FieldValue) :=
  match extracted .date with
  | some dates => some (mergeDate dates ((extracted .time).getD []))
  | none => extracted .datetime

/-! ## Coordinates -/

/-- What is behind a number of up to three digits, which may have a sign and a
fraction. -/
def readDegrees (cs : List Char) : Option (List Char) :=
  let cs := if cs.head? = some '-' then cs.drop 1 else cs
  let whole := cs.takeWhile isDecimalDigit
  if whole.isEmpty || 3 < whole.length then none
  else
    match cs.drop whole.length with
    | '.' :: rest =>
      if (rest.head?.any isDecimalDigit) then some (rest.dropWhile isDecimalDigit) else none
    | rest => some rest

/-- Whether a text is a pair of degrees with a comma between them. -/
def isCoordinatePair (s : String) : Bool :=
  match (readDegrees s.toList).map dropBlank with
  | some (',' :: rest) => readDegrees (dropBlank rest) = some []
  | _ => false

/-- The coordinates that a value holds: a pair of degrees, or groups of both names. -/
def coordinates? : FieldValue → Option String
  | .text s => if isCoordinatePair s then some s else none
  | .groups texts => do
    let latitude ← texts.get? "Lat"
    let longitude ← texts.get? "Lon"
    return concat [trim latitude, ",", trim longitude]

/-! ## Records -/

/-- The texts of a field of the record, if it has a rule. -/
def slotTexts (extracted : Extracted) : EventField → Option (List String)
  | .datetime => (datetimeValues extracted).map (·.map FieldValue.toText)
  | .gps => (extracted .gps).map (·.filterMap coordinates?)
  | field => (extracted field).map (·.map FieldValue.toText)

/-- The text that the record holds for a field: the first, or all of them where a field
may have several. -/
def slotText (field : EventField) (texts : List String) : Option String :=
  match texts with
  | [] => none
  | first :: rest =>
    if field.isMultiValued then some (EventRecord.storeList (first :: rest)) else some first

/-- Whether a field has more texts than the record can hold. -/
def hasSurplus (extracted : Extracted) (field : EventField) : Bool :=
  !field.isMultiValued && (slotTexts extracted field).any (1 < ·.length)

/-- The record of the values of fields, with a remark on each field of which some texts
are left out. -/
def assemble (extracted : Extracted) : Noted EventRecord where
  value := EventRecord.ofFields fun field => (slotTexts extracted field).bind (slotText field)
  remarks := (EventRecord.fields.filter (hasSurplus extracted)).map .surplus

end Almanac.Extraction
