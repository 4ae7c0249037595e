import Almanac.Text.Blank
import Almanac.Text.Search

/-!
# Compaction and range macros

Values and formats are brought into one layout before they are compared: runs of
white space become one space, and none is left beside a dot, a dash or the
delimiter of a range. A format marks a range by a macro, the word `%range` and
the delimiter in braces, between the formats of its start and its end; of several
macros the last counts.
-/

namespace Almanac.Datetime

open Almanac.Text

/-! ## Range macros -/

/-- The characters that open a range macro, before its delimiter. -/
def macroOpening : List Char := ['%', 'r', 'a', 'n', 'g', 'e', '\x7b']

/-- A range macro with a delimiter. -/
def rangeMacro (delimiter : List Char) : List Char := macroOpening ++ delimiter ++ ['\x7d']

/-- Two texts with a delimiter between them. -/
structure RangeParts where
  start : List Char
  delimiter : List Char
  finish : List Char
  deriving Repr, DecidableEq

/-- The last macro in the characters that is closed: what is before it, its
delimiter up to the last closing brace, and what is behind that. -/
def findMacro? : List Char → Option RangeParts
  | [] => none
  | c :: rest =>
    match findMacro? rest with
    | some parts => some { parts with start := c :: parts.start }
    | none =>
      if macroOpening.isPrefixOf (c :: rest) then
        (splitLast ['\x7d'] ((c :: rest).drop macroOpening.length)).map fun (delimiter, finish) =>
          ⟨[], delimiter, finish⟩
      else none

/-- The range macro of a text of one line. -/
def splitMacro? (cs : List Char) : Option RangeParts :=
  if cs.contains '\n' then none else findMacro? cs

/-! ## Compaction -/

/-- The characters without white space beside any occurrence of `separator`. -/
def stripAround (separator cs : List Char) : List Char :=
  if separator.isEmpty || !occurs separator cs then cs
  else separator.intercalate ((splitAll separator cs).map trimChars)

/-- The characters in the layout in which values and formats are compared. -/
def compactChars (cs : List Char) : List Char :=
  let cs := stripAround ['-'] (stripAround ['.'] (collapseChars (trimChars cs)))
  match splitMacro? cs with
  | none => cs
  | some parts =>
    let delimiter := trimChars parts.delimiter
    stripAround (rangeMacro delimiter) (stripAround delimiter cs)

/-- A text in the layout in which values and formats are compared. -/
def compact (s : String) : String := String.ofList (compactChars s.toList)

/-- The characters with en dashes made dashes. -/
def plainDashes (cs : List Char) : List Char := cs.map fun c => if c = '–' then '-' else c

/-- The delimiter of the range in a format, if it has one. -/
def macroDelimiter? (format : List Char) : Option (List Char) :=
  (splitMacro? format).map fun parts => compactChars parts.delimiter

/-! ## Dates with separate times -/

/-- Stands between the date and the time of one value. -/
def dateTimeSeparator : List Char := ['%', ';']

/-- A range in a part of a value or format: its start, what joins start and end
when the parts are put together again, and its end. -/
structure Split where
  start : List Char
  joiner : List Char
  finish : List Char
  deriving Repr, DecidableEq

/-- Splits a value at the last occurrence of a delimiter, which is not empty. -/
def splitAtDelimiter? (delimiter part : List Char) : Option Split :=
  if delimiter.isEmpty then none
  else
    (splitLast delimiter part).map fun (start, finish) =>
      ⟨trimChars start, delimiter, trimChars finish⟩

/-- Splits a format at its range macro. -/
def splitAtMacro? (part : List Char) : Option Split :=
  (splitMacro? part).map fun parts =>
    ⟨trimChars parts.start, rangeMacro parts.delimiter, trimChars parts.finish⟩

/-- Puts a date and a time together so that a range reads its start first and its
end second: each end of a range of dates gets its time, the one time goes to the
start, and a range of times on one date becomes a single token. -/
def reorderWith (split? : List Char → Option Split) (value : List Char) : List Char :=
  let (date, time) := (splitFirst dateTimeSeparator value).getD (value, [])
  let date := trimChars date
  let time := trimChars time
  let spaced (parts : List (List Char)) : List Char := [' '].intercalate parts
  match split? date, split? time with
  | some dates, some times =>
    spaced [dates.start, times.start, dates.joiner, dates.finish, times.finish]
  | some dates, none => spaced [dates.start, time, dates.joiner, dates.finish]
  | none, some times => spaced [date, times.start ++ '-' :: times.finish]
  | none, none => spaced [date, time]

/-- Puts the date and the time of a value together; without a delimiter a value
may hold a range macro itself. -/
def reorderValue (delimiter : Option (List Char)) (value : List Char) : List Char :=
  match delimiter with
  | some delimiter => reorderWith (splitAtDelimiter? delimiter) value
  | none => reorderWith splitAtMacro? value

/-- The format of a date with a format of its time. -/
def combineFormats (date time : List Char) : List Char :=
  reorderWith splitAtMacro? (date ++ dateTimeSeparator ++ time)

end Almanac.Datetime
