import Almanac.Calendar.Date
import Almanac.Calendar.TimeOfDay
import Almanac.Datetime.Format

/-!
# Reading dates and times

A text matches a format when it can be cut into segments, one for each piece and
in order. A directive may allow several segments: for a number the longest is
tried first, for a name the earliest in the locale's list. The first way through
all pieces that uses up the text decides. Parts that the format does not mention
have the values of midnight on the first of January 1900.
-/

namespace Almanac.Datetime

open Almanac.Text

/-! ## The parts read -/

/-- A part of a date or time that is read as a number. -/
inductive Slot where
  | year
  | month
  | day
  | hour
  | halfDayHour
  | minute
  | second
  | micro
  deriving Repr, DecidableEq, Inhabited

/-- What a directive has read. -/
inductive Reading where
  | number (slot : Slot) (value : Nat)
  | meridiem (afternoon : Bool)
  /-- A part that the date does not depend on. -/
  | ignored
  deriving Repr, DecidableEq, Inhabited

/-- The parts read so far. -/
structure Fields where
  year : Option Nat := none
  month : Option Nat := none
  day : Option Nat := none
  hour : Option Nat := none
  halfDayHour : Option Nat := none
  minute : Option Nat := none
  second : Option Nat := none
  micro : Option Nat := none
  afternoon : Option Bool := none
  deriving Repr, DecidableEq, Inhabited

namespace Fields

/-- The parts with one more; a part that has been read keeps its first value. -/
def add (f : Fields) : Reading → Fields
  | .number .year v => { f with year := f.year.or (some v) }
  | .number .month v => { f with month := f.month.or (some v) }
  | .number .day v => { f with day := f.day.or (some v) }
  | .number .hour v => { f with hour := f.hour.or (some v) }
  | .number .halfDayHour v => { f with halfDayHour := f.halfDayHour.or (some v) }
  | .number .minute v => { f with minute := f.minute.or (some v) }
  | .number .second v => { f with second := f.second.or (some v) }
  | .number .micro v => { f with micro := f.micro.or (some v) }
  | .meridiem v => { f with afternoon := f.afternoon.or (some v) }
  | .ignored => f

/-- The hour of the day: as read, or from the hour of the half day. -/
def hourOfDay (f : Fields) : Nat :=
  match f.hour, f.halfDayHour with
  | some hour, _ => hour
  | none, some hour => hour % 12 + if f.afternoon = some true then 12 else 0
  | none, none => 0

/-- The date that the parts make up, if there is such a day. -/
def date? (f : Fields) : Option Date :=
  Date.of? (f.year.getD 1900) (f.month.getD 1) (f.day.getD 1)

/-- The time that the parts make up. -/
def time? (f : Fields) : Option TimeOfDay :=
  TimeOfDay.of? f.hourOfDay (f.minute.getD 0) (f.second.getD 0) (f.micro.getD 0)

/-- The date and time that the parts make up. -/
def moment? (f : Fields) : Option (Date × TimeOfDay) := do
  let date ← f.date?
  let time ← f.time?
  return (date, time)

end Fields

/-! ## Segments -/

/-- How a directive reads a number: how many digits, which values, and what the
value of so many digits stands for. -/
structure Numeral where
  slot : Slot
  least : Nat
  most : Nat
  low : Nat
  high : Nat
  meaning : Nat → Nat → Nat := fun _ value => value

/-- Two digits of a year stand for a year from 1969 to 2068. -/
def fullYear (value : Nat) : Nat := if value ≥ 69 then 1900 + value else 2000 + value

/-- The digits behind the point of a second as microseconds. -/
def microseconds (width value : Nat) : Nat := value * Nat.pow 10 (6 - width)

/-- The first digits of the characters, with their count, for every count that
the numeral allows and that gives a value in its range; the longest first. -/
def Numeral.segments (n : Numeral) (input : List Char) : List (Nat × Reading) :=
  let available := ((input.take n.most).takeWhile isAsciiDigit).length
  ((List.range' n.least (available + 1 - n.least)).reverse).filterMap fun width =>
    let value := Number.value (input.take width)
    if n.low ≤ value && value ≤ n.high then
      some (width, .number n.slot (n.meaning width value))
    else none

/-- Whether the characters begin with a name, in any case. -/
def beginsName : List Char → List Char → Bool
  | [], _ => true
  | _ :: _, [] => false
  | n :: name, c :: cs => sameLetter c n && beginsName name cs

/-- The names of a list that the characters begin with, with their lengths and
what their place in the list stands for. Empty names stand for nothing. -/
def nameSegments (names : List String) (reading : Nat → Reading) (input : List Char) :
    List (Nat × Reading) :=
  names.zipIdx.filterMap fun (name, i) =>
    let chars := name.toList
    if !chars.isEmpty && beginsName chars input then some (chars.length, reading i) else none

/-- The segments that a directive allows at the front of the characters, the
preferred first: how many characters each takes and what it reads. -/
def Directive.segments (locale : Locale) (directive : Directive) (input : List Char) :
    List (Nat × Reading) :=
  match directive with
  | day => Numeral.segments { slot := .day, least := 1, most := 2, low := 1, high := 31 } input
  | month => Numeral.segments { slot := .month, least := 1, most := 2, low := 1, high := 12 } input
  | year => Numeral.segments { slot := .year, least := 4, most := 4, low := 1, high := 9999 } input
  | shortYear =>
    Numeral.segments
      { slot := .year, least := 2, most := 2, low := 0, high := 99,
        meaning := fun _ value => fullYear value } input
  | hour => Numeral.segments { slot := .hour, least := 1, most := 2, low := 0, high := 23 } input
  | halfDayHour =>
    Numeral.segments { slot := .halfDayHour, least := 1, most := 2, low := 1, high := 12 } input
  | minute =>
    Numeral.segments { slot := .minute, least := 1, most := 2, low := 0, high := 59 } input
  | second =>
    Numeral.segments { slot := .second, least := 1, most := 2, low := 0, high := 59 } input
  | fraction =>
    Numeral.segments
      { slot := .micro, least := 1, most := 6, low := 0, high := 999999,
        meaning := microseconds } input
  | meridiem => nameSegments locale.meridiem (fun i => .meridiem (i == 1)) input
  | monthName => nameSegments locale.months (fun i => .number .month (i + 1)) input
  | shortMonthName => nameSegments locale.shortMonths (fun i => .number .month (i + 1)) input
  | weekdayName => nameSegments locale.weekdays (fun _ => .ignored) input
  | shortWeekdayName => nameSegments locale.shortWeekdays (fun _ => .ignored) input

/-! ## Matching -/

/-- The parts read by the first way to cut the characters into segments for the
pieces, added to those read before. -/
def matchPieces? (locale : Locale) : List Piece → List Char → Fields → Option Fields
  | [], input, fields => if input.isEmpty then some fields else none
  | .space :: rest, input, fields =>
    if (input.takeWhile isBlank).isEmpty then none
    else matchPieces? locale rest (input.dropWhile isBlank) fields
  | .literal _ :: _, [], _ => none
  | .literal expected :: rest, found :: input, fields =>
    if sameLetter found expected then matchPieces? locale rest input fields else none
  | .directive directive :: rest, input, fields =>
    (directive.segments locale input).findSome? fun (width, reading) =>
      matchPieces? locale rest (input.drop width) (fields.add reading)

/-- The date and time that a text states in a format, with the values of parts
that the format does not mention. -/
def read? (locale : Locale) (format input : String) : Option (Date × TimeOfDay) := do
  let pieces ← Piece.compile? locale format
  let fields ← matchPieces? locale pieces input.toList {}
  fields.moment?

end Almanac.Datetime
