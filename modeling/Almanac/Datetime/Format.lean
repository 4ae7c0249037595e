import Almanac.Locale.Basic

/-!
# Formats of dates and times

A format is text with directives, each a percent sign and a letter, for the parts
of a date or time. It is read as a list of pieces: single characters, white space
and directives. Two directives stand for the usual formats of the locale, in
which they may not occur themselves.
-/

namespace Almanac.Datetime

open Almanac.Text

/-- A directive. -/
inductive Directive where
  | day
  | month
  | year
  | shortYear
  | hour
  | halfDayHour
  | minute
  | second
  | fraction
  | meridiem
  | monthName
  | shortMonthName
  | weekdayName
  | shortWeekdayName
  deriving Repr, DecidableEq, Inhabited

namespace Directive

/-- Every directive with its letter. -/
def letters : List (Char × Directive) := [
  ('d', day), ('m', month), ('Y', year), ('y', shortYear), ('H', hour), ('I', halfDayHour),
  ('M', minute), ('S', second), ('f', fraction), ('p', meridiem), ('B', monthName),
  ('b', shortMonthName), ('A', weekdayName), ('a', shortWeekdayName)]

/-- The directive with a letter. -/
def ofLetter? (letter : Char) : Option Directive := letters.lookup letter

end Directive

/-- A piece of a format. -/
inductive Piece where
  /-- A character, in any case. -/
  | literal (char : Char)
  /-- White space, at least some. -/
  | space
  /-- A part of a date or time. -/
  | directive (directive : Directive)
  deriving Repr, DecidableEq, Inhabited

namespace Piece

/-- The pieces with neighbouring spaces made one. -/
def mergeSpaces : List Piece → List Piece
  | [] => []
  | space :: rest =>
    match mergeSpaces rest with
    | space :: more => space :: more
    | more => space :: more
  | piece :: rest => piece :: mergeSpaces rest

/-- The pieces of a format, one for each character or directive, where `expansion`
gives the pieces that other letters stand for. A percent sign at the end, or
before a letter that stands for nothing, makes it no format. -/
def listOf? (expansion : Char → Option (List Piece)) : List Char → Option (List Piece)
  | [] => some []
  | ['%'] => none
  | '%' :: letter :: rest =>
    let front : Option (List Piece) :=
      if letter = '%' then some [literal '%']
      else
        match Directive.ofLetter? letter with
        | some d => some [directive d]
        | none => expansion letter
    front.bind fun front => (listOf? expansion rest).map (front ++ ·)
  | c :: rest =>
    (listOf? expansion rest).map ((if isBlank c then space else literal c) :: ·)

/-- What the letters for the usual formats of a locale stand for. -/
def usualFormat? (locale : Locale) (letter : Char) : Option (List Piece) :=
  if letter = 'x' then listOf? (fun _ => none) locale.dateFormat.toList
  else if letter = 'X' then listOf? (fun _ => none) locale.timeFormat.toList
  else none

/-- The pieces of a format in a locale. -/
def compile? (locale : Locale) (format : String) : Option (List Piece) :=
  (listOf? (usualFormat? locale) format.toList).map mergeSpaces

end Piece

end Almanac.Datetime
