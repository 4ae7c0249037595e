import Almanac.Template.Basic
import Almanac.Text.Search
import Almanac.Url.Error

/-!
# Errors

What stops a call: a page that the template does not describe, a missing document, a
template that cannot be had, or an address that is none.
-/

namespace Almanac

/-- What stops a call. -/
inductive Error where
  /-- The template does not describe the page. -/
  | unknownPage (page template : String)
  /-- There is no document to search. -/
  | missingDocument
  /-- There is no file for the template. -/
  | templateNotFound (name path : String)
  /-- The file of a template is not text. -/
  | templateNotText (path : String)
  /-- The text of a template is not that of a template. -/
  | templateMalformed (name : String)
  /-- The template has a rule for a field that the page does not have. -/
  | unknownField (template : String) (page : Page) (field : String)
  /-- The address of the calendar page is none. -/
  | invalidUrl (url : String) (cause : Url.Error)
  deriving Repr, DecidableEq, Inhabited

namespace Error

open Text

/-- The text of an error. -/
def message : Error → String
  | unknownPage page template =>
    concat ["Page '", page, "' is not defined for '", template, "' template"]
  | missingDocument => "No document to search, call Parser::set_document first"
  | templateNotFound name path => concat ["Template '", name, "' not found at ", path]
  | templateNotText path =>
    concat ["Failed to read template ", path, ": stream did not contain valid UTF-8"]
  | templateMalformed name => concat ["Malformed template '", name, "'"]
  | unknownField template page field =>
    concat ["Invalid template '", template, "': unknown ", page.name, " field '", field, "'"]
  | invalidUrl url cause => concat ["Invalid calendar URL '", url, "': ", cause.message]

end Error

end Almanac
