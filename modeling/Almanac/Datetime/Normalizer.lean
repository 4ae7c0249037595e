import Almanac.Datetime.Compaction
import Almanac.Datetime.Matching

/-!
# Normalizing dates

Event pages print dates as free text. A site's template declares the formats of
its dates and times; from these come the candidates, formats of single moments or
of ranges. A value is normalized by the last candidate that reads a start date
off it.
-/

namespace Almanac.Datetime

open Almanac.Text

/-! ## Formats -/

/-- The usual format of a date with its time. -/
def usualMoment : String := "%d.%m.%Y %H:%M"

/-- The usual format of a date, which is always a candidate. -/
def usualDate : String := "%d.%m.%Y"

/-- The usual format of a time. -/
def usualTime : String := "%H:%M"

/-- The formats that a template declares. -/
structure Formats where
  /-- Formats of dates together with times, if the template has such a field. -/
  moments : Option (List String) := none
  dates : List String := []
  times : List String := []
  deriving Repr, DecidableEq, Inhabited

/-- When an event takes place; parts that its source does not state are missing. -/
structure Occurrence where
  startDate : Option Date := none
  startTime : Option TimeOfDay := none
  endDate : Option Date := none
  endTime : Option TimeOfDay := none
  deriving Repr, DecidableEq

/-! ## Candidates -/

/-- A format to read values with. -/
inductive Candidate where
  | single (format : String)
  | range (start : String) (delimiter : List Char) (finish : String)
  deriving Repr, DecidableEq, Inhabited

/-- Whether a percent sign with one of the letters occurs in the characters. -/
def hasDirective (letters : List Char) : List Char → Bool
  | '%' :: c :: rest => letters.contains c || hasDirective letters (c :: rest)
  | _ :: rest => hasDirective letters rest
  | [] => false

/-- The letters of the directives that state a date. -/
def dateLetters : List Char := ['d', 'b', 'B', 'm', 'y', 'Y', 'x']

/-- The letters of the directives that state a time. -/
def timeLetters : List Char := ['H', 'I', 'p', 'M', 'S', 'f', 'X']

/-- Reads a value in a format and keeps what the format states. -/
def readStated? (locale : Locale) (format value : String) :
    Option (Option Date × Option TimeOfDay) :=
  (read? locale format value).map fun (date, time) =>
    (if hasDirective dateLetters format.toList then some date else none,
      if hasDirective timeLetters format.toList then some time else none)

namespace Candidate

/-- The candidate that a format is. -/
def ofFormat (format : List Char) : Candidate :=
  match splitMacro? format with
  | none => single (String.ofList format)
  | some parts =>
    range (String.ofList (compactChars parts.start)) (compactChars parts.delimiter)
      (String.ofList (compactChars parts.finish))

/-- Reads a value; a range is split at the first delimiter in it, and a time that
is stated at one end only holds for both. -/
def read? (locale : Locale) (candidate : Candidate) (value : List Char) : Option Occurrence :=
  match candidate with
  | single format => do
    let (startDate, startTime) ← readStated? locale format (String.ofList value)
    return { startDate, startTime }
  | range start delimiter finish => do
    let (before, after) ← splitFirst delimiter value
    let (startDate, startTime) ←
      readStated? locale start (String.ofList (compactChars before))
    let (endDate, endTime) ← readStated? locale finish (String.ofList (compactChars after))
    return { startDate, startTime := startTime.or endTime, endDate,
             endTime := endTime.or startTime }

end Candidate

/-! ## Normalizers -/

/-- The formats to try, in the order in which the template declares them: those of
dates together with times if it has such a field, otherwise each date format alone
and with each time format. The usual formats come behind the declared ones. -/
def Formats.combined (formats : Formats) : List (List Char) :=
  let declared : List (List Char) :=
    match formats.moments with
    | some moments => (moments ++ [usualMoment]).map String.toList
    | none =>
      (formats.dates ++ [usualDate]).flatMap fun date =>
        date.toList :: (formats.times ++ [usualTime]).map fun time =>
          combineFormats date.toList time.toList
  declared ++ [usualDate.toList]

/-- The candidates of a template, each at its first place only. -/
def Formats.candidates (formats : Formats) : List Candidate :=
  (formats.combined.map fun format =>
    Candidate.ofFormat (compactChars (plainDashes format))).eraseDups

/-- The delimiter at which the values of a template are split: the first of all
range macros that it declares. -/
def Formats.delimiter? (formats : Formats) : Option (List Char) :=
  (formats.moments.getD [] ++ formats.dates ++ formats.times).findSome? fun format =>
    macroDelimiter? (plainDashes format.toList)

/-- What normalizes the values of one template. -/
structure Normalizer where
  candidates : List Candidate
  delimiter : Option (List Char)
  locale : Locale
  deriving Repr

namespace Normalizer

/-- The normalizer for the formats of a template in a locale. -/
def of (formats : Formats) (locale : Locale) : Normalizer :=
  ⟨formats.candidates, formats.delimiter?, locale⟩

/-- A raw value in the layout in which candidates read it. -/
def prepare (n : Normalizer) (raw : String) : List Char :=
  let value := plainDashes (n.locale.replaceWords raw).toList
  compactChars (if occurs dateTimeSeparator value then reorderValue n.delimiter value else value)

/-- The occurrence that a raw value states: what the last of the candidates that
reads a start date off it reads. -/
def normalize (n : Normalizer) (raw : String) : Option Occurrence :=
  let value := n.prepare raw
  n.candidates.reverse.findSome? fun candidate =>
    (candidate.read? n.locale value).filter fun occurrence => occurrence.startDate.isSome

/-- The occurrences that raw values state, without the values that state none, and
these values. -/
def normalizeAll (n : Normalizer) (raws : List String) : List Occurrence × List String :=
  (raws.filterMap n.normalize, raws.filter fun raw => (n.normalize raw).isNone)

end Normalizer

end Almanac.Datetime
