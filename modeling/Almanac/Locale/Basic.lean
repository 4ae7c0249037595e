import Almanac.Locale.Replacement

/-!
# Locales

The names and conventions by which dates are read in one language, and the words
that are rewritten before. Czech pages print months in two forms, of which dates
are read with the genitive; the nominative is rewritten to it.
-/

namespace Almanac

/-- Names and conventions of a language. -/
structure Locale where
  /-- Names of the months, from January on. -/
  months : List String
  /-- Short names of the months, from January on. -/
  shortMonths : List String
  /-- Names of the days of the week, from Monday on. -/
  weekdays : List String
  /-- Short names of the days of the week, from Monday on. -/
  shortWeekdays : List String
  /-- The marks of the morning and of the afternoon. -/
  meridiem : List String
  /-- The usual format of a date. -/
  dateFormat : String
  /-- The usual format of a time. -/
  timeFormat : String
  /-- What is rewritten before a date is read, in this order. -/
  replacements : List Replacement
  deriving Repr, DecidableEq, Inhabited

namespace Locale

/-- The nominative names of Czech months, where the genitive is another. -/
def czechMonthForms : List Replacement := [
  ⟨"leden", "ledna"⟩, ⟨"únor", "února"⟩, ⟨"březen", "března"⟩, ⟨"duben", "dubna"⟩,
  ⟨"květen", "května"⟩, ⟨"červen", "června"⟩, ⟨"červenec", "července"⟩, ⟨"srpen", "srpna"⟩,
  ⟨"říjen", "října"⟩, ⟨"listopad", "listopadu"⟩, ⟨"prosinec", "prosince"⟩]

/-- Czech, with months in the genitive. -/
def czech : Locale where
  months := ["ledna", "února", "března", "dubna", "května", "června", "července", "srpna", "září",
    "října", "listopadu", "prosince"]
  shortMonths :=
    ["led", "úno", "bře", "dub", "kvě", "čvn", "čvc", "srp", "zář", "říj", "lis", "pro"]
  weekdays := ["pondělí", "úterý", "středa", "čtvrtek", "pátek", "sobota", "neděle"]
  shortWeekdays := ["po", "út", "st", "čt", "pá", "so", "ne"]
  meridiem := ["dop.", "odp."]
  dateFormat := "%d.%m.%Y"
  timeFormat := "%H:%M:%S"
  replacements := czechMonthForms

/-- English. -/
def english : Locale where
  months := ["January", "February", "March", "April", "May", "June", "July", "August", "September",
    "October", "November", "December"]
  shortMonths :=
    ["Jan", "Feb", "Mar", "Apr", "May", "Jun", "Jul", "Aug", "Sep", "Oct", "Nov", "Dec"]
  weekdays := ["Monday", "Tuesday", "Wednesday", "Thursday", "Friday", "Saturday", "Sunday"]
  shortWeekdays := ["Mon", "Tue", "Wed", "Thu", "Fri", "Sat", "Sun"]
  meridiem := ["AM", "PM"]
  dateFormat := "%m/%d/%Y"
  timeFormat := "%H:%M:%S"
  replacements := []

/-- The locale with other usual formats. -/
def withFormats (locale : Locale) (dateFormat timeFormat : String) : Locale :=
  { locale with dateFormat, timeFormat }

/-- The locale with more words to be rewritten, after those it has. -/
def withReplacements (locale : Locale) (more : List Replacement) : Locale :=
  { locale with replacements := locale.replacements ++ more }

/-- A text with the locale's words rewritten. -/
def replaceWords (locale : Locale) (s : String) : String :=
  locale.replacements.foldl (fun s r => r.apply s) s

end Locale

end Almanac
