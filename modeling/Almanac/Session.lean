import Almanac.Datetime.Normalizer
import Almanac.Diagnostics
import Almanac.Extraction.Reading

/-!
# Sessions

A session reads the pages of one site with its template. It holds the page it was given
last and the remarks that have been made; what a call answers depends on the template,
the locale, that page and the arguments of the call alone.
-/

namespace Almanac

/-- The formats that a template declares for dates and times. -/
def Template.datetimeFormats (t : Template) : Datetime.Formats where
  moments := (t.eventField? .datetime).map (·.formats)
  dates := t.formats .date
  times := t.formats .time

/-- What normalizes the dates of a template. -/
def Template.normalizer (t : Template) (locale : Locale) : Datetime.Normalizer :=
  .of t.datetimeFormats locale

/-- The occurrences that raw values state, with a remark on each value that states
none. -/
def Template.normalizeAll (t : Template) (locale : Locale) (raws : List String) :
    Noted (List Datetime.Occurrence) :=
  let (occurrences, failed) := (t.normalizer locale).normalizeAll raws
  ⟨occurrences, failed.map .unreadableDatetime⟩

/-- A session. -/
structure Session where
  template : Template
  locale : Locale := .czech
  document : Option Document := none
  diagnostics : Diagnostics := .empty

namespace Session

variable {α : Type}

/-- Adds remarks to the diagnostics. -/
def note (s : Session) (remarks : List Remark) : Session :=
  { s with diagnostics := s.diagnostics.pushAll (remarks.map Remark.message) }

/-- The answer of a call and the session after it; a call that fails changes nothing. -/
def conclude (s : Session) (outcome : Except Error (Noted α)) : Except Error α × Session :=
  match outcome with
  | .ok noted => (.ok noted.value, s.note noted.remarks)
  | .error e => (.error e, s)

/-- Gives the session another page. -/
def setDocument (s : Session) (document : Document) : Session :=
  { s with document := some document }

/-- The links of a calendar page. -/
def eventLinks (s : Session) : Except Error (List String) × Session :=
  s.conclude (Extraction.eventLinks s.template s.document)

/-- The addresses that the links stand for on a page at `base`. -/
def resolvedLinks (s : Session) (base : String) : Except Error (List String) × Session :=
  s.conclude (Extraction.resolvedLinks s.template s.document base)

/-- The record of an event page. -/
def eventRecord (s : Session) : Except Error EventRecord × Session :=
  s.conclude (Extraction.eventRecord s.template s.document)

/-- The occurrences that raw values state. -/
def normalizeAll (s : Session) (raws : List String) : List Datetime.Occurrence × Session :=
  let noted := s.template.normalizeAll s.locale raws
  (noted.value, s.note noted.remarks)

/-- The diagnostics, of which the session keeps none. -/
def drain (s : Session) : List String × Session :=
  (s.diagnostics.messages, { s with diagnostics := .empty })

/-! ## Steps -/

/-- A call on a session. -/
inductive Step where
  | setDocument (document : Document)
  | eventLinks
  | resolvedLinks (base : String)
  | eventRecord
  | normalizeAll (raws : List String)
  | drain

/-- What a call answers. -/
inductive Answer where
  | nothing
  | texts (texts : List String)
  | record (record : EventRecord)
  | occurrences (occurrences : List Datetime.Occurrence)
  deriving DecidableEq

/-- An answer in place of the value of a call. -/
def answerWith (answer : α → Answer) (result : Except Error α × Session) :
    Except Error Answer × Session :=
  (result.1.map answer, result.2)

/-- Makes a call. -/
def step (s : Session) : Step → Except Error Answer × Session
  | .setDocument document => (.ok .nothing, s.setDocument document)
  | .eventLinks => answerWith .texts s.eventLinks
  | .resolvedLinks base => answerWith .texts (s.resolvedLinks base)
  | .eventRecord => answerWith .record s.eventRecord
  | .normalizeAll raws =>
    let (occurrences, s) := s.normalizeAll raws
    (.ok (.occurrences occurrences), s)
  | .drain =>
    let (messages, s) := s.drain
    (.ok (.texts messages), s)

/-- Makes calls one after the other. -/
def run (s : Session) : List Step → List (Except Error Answer) × Session
  | [] => ([], s)
  | call :: rest =>
    let (answer, s) := s.step call
    let (answers, s) := s.run rest
    (answer :: answers, s)

end Session

end Almanac
