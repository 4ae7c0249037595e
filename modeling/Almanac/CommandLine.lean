import Almanac.Encoding.Page
import Almanac.FileTree
import Almanac.Path
import Almanac.Session

/-!
# Command line

The program reads a page with a template and prints what it finds as JSON: the links of
a calendar page, or the record of an event page with its dates. Remarks are printed as
warnings.
-/

namespace Almanac

open Text

/-- What the program is asked to do. -/
structure Command where
  /-- The path of the template. -/
  path : String
  page : Page
  /-- The address of the calendar page. -/
  base : Option String := none
  deriving Repr, DecidableEq

/-- What the program does: the status it ends with and what it prints. -/
structure Outcome where
  status : Nat
  output : String := ""
  messages : String := ""
  deriving Repr, DecidableEq

namespace Outcome

/-- How the program is called. -/
def usage : Outcome where
  status := 2
  messages := "usage: extract_page <template.json> <calendar|event> [calendar_url] < page.html\n"

/-- Ends with an error behind some lines. -/
def failure (lines : List String) (message : String) : Outcome where
  status := 1
  messages := concat (lines ++ ["error: ", message, "\n"])

end Outcome

namespace Command

/-- The command that the arguments give. -/
def ofArguments? : List String → Option Command
  | [path, page] => (Page.ofName? page).map fun page => { path, page }
  | [path, page, base] => (Page.ofName? page).map fun page => { path, page, base := some base }
  | _ => none

/-! ## Names of templates -/

/-- A name without the part behind its last dot; a dot at its front does not count. -/
def stem (name : String) : String :=
  match splitLast ['.'] name.toList with
  | some (c :: cs, _) => String.ofList (c :: cs)
  | _ => name

/-- The name of the template at a path. -/
def templateName (path : String) : String := ((Path.fileName? path).map stem).getD "template"

/-! ## Answers -/

/-- An occurrence as an object of its four parts. -/
def occurrenceJson (o : Datetime.Occurrence) : Json :=
  let part (text : Option String) : Json := text.elim .null .string
  .object [
    ("start_date", part (o.startDate.map Date.text)),
    ("start_time", part (o.startTime.map TimeOfDay.text)),
    ("end_date", part (o.endDate.map Date.text)),
    ("end_time", part (o.endTime.map TimeOfDay.text))]

/-- What is printed for a page, and the session after it. -/
def answer (c : Command) (s : Session) : Except Error Json × Session :=
  match c.page with
  | .calendar =>
    let (links, s) :=
      match c.base with
      | some base => s.resolvedLinks base
      | none => s.eventLinks
    (links.map fun links => .array (links.map .string), s)
  | .event =>
    let (record, s) := s.eventRecord
    match record with
    | .error e => (.error e, s)
    | .ok record =>
      let (occurrences, s) := s.normalizeAll record.datetimes
      let datetimes : Json := .array (occurrences.map occurrenceJson)
      (.ok (.object [("record", record.toJson), ("datetimes", datetimes)]), s)

/-- Reads a page with a template. -/
def readPage (c : Command) (template : Template) (page : List UInt8) : Outcome :=
  let session : Session := { template }
  let (answer, session) := c.answer (session.setDocument (Document.ofPage page))
  let warnings := session.diagnostics.messages.map fun message =>
    concat ["warning: ", message, "\n"]
  match answer with
  | .ok json =>
    { status := 0, output := concat [json.indentedText, "\n"], messages := concat warnings }
  | .error e => .failure warnings e.message

/-- Carries out a command: `content` is what the file of the template holds. -/
def run (c : Command) (content : Except PathError (List UInt8)) (page : List UInt8) : Outcome :=
  let unreadable (reason : String) : Outcome :=
    .failure [] (concat ["cannot read ", c.path, ": ", reason])
  match content with
  | .error e => unreadable e.message
  | .ok content =>
    match Utf8.decode? content with
    | none => unreadable "stream did not contain valid UTF-8"
    | some text =>
      match Template.ofText (templateName c.path) (String.ofList text) with
      | .error e => .failure [] e.message
      | .ok template => c.readPage template page

end Command

end Almanac
