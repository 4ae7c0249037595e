import Almanac.Error
import Almanac.Extraction.Assembly
import Almanac.Extraction.Selection
import Almanac.Extraction.Shaping
import Almanac.Template.Reader
import Almanac.Url.Reader

/-!
# Reading pages

What a template reads off a document: the links of a calendar page, as they are written
or as addresses, and the record of an event page.
-/

namespace Almanac.Extraction

open Text

/-- The document that is there. -/
def required (doc : Option Document) : Except Error Document :=
  match doc with
  | some doc => .ok doc
  | none => .error .missingDocument

/-! ## Calendar pages -/

/-- The links that a rule finds in the roots. -/
def linksIn (doc : Document) (roots : List Nat) (rule : FieldRule) : Noted (List String) :=
  (selectTexts doc roots eventLinkKey rule.selection).bind fun found =>
    let links := (found.map trim).filter (!·.isEmpty)
    ⟨links, if links.isEmpty then [.noLinks] else []⟩

/-- The links to events, in the order of roots and selectors. -/
def eventLinks (template : Template) (doc : Option Document) :
    Except Error (Noted (List String)) := do
  let page ← template.page .calendar
  let doc ← required doc
  return (findRoots doc .calendar page.roots).bind fun roots =>
    if roots.isEmpty then ⟨[], []⟩
    else
      match page.fields.get? eventLinkKey with
      | none => ⟨[], [.noLinkRule]⟩
      | some rule => linksIn doc roots rule

/-- The address that a link stands for. -/
def resolveLink (base : Url) (link : String) : Except Remark String :=
  match base.join link with
  | .ok url => .ok url.text
  | .error cause => .error (.unresolvedLink link cause)

/-- The addresses that the links to events stand for on the page at `base`. -/
def resolvedLinks (template : Template) (doc : Option Document) (base : String) :
    Except Error (Noted (List String)) := do
  let base ← (Url.ofText base).mapError (Error.invalidUrl base)
  return (← eventLinks template doc).bind (Noted.readAll (resolveLink base))

/-! ## Event pages -/

/-- The values of a field, none if there are no roots. -/
def extractField (doc : Document) (roots : List Nat) (field : EventField) (rule : FieldRule) :
    Noted (List FieldValue) :=
  let found := if roots.isEmpty then ⟨[], []⟩ else selectTexts doc roots field.key rule.selection
  found.bind fun found => fieldValues rule.pattern field.key (fieldTexts rule.selection found)

/-- The values of some fields that have a rule. -/
def extractFields (doc : Document) (roots : List Nat) (page : PageRule) :
    List EventField → Noted (List (EventField × List FieldValue))
  | [] => ⟨[], []⟩
  | field :: rest =>
    match page.fields.get? field.key with
    | none => extractFields doc roots page rest
    | some rule =>
      (extractField doc roots field rule).bind fun values =>
        (extractFields doc roots page rest).bind fun others => ⟨(field, values) :: others, []⟩

/-- The record of an event. -/
def eventRecord (template : Template) (doc : Option Document) :
    Except Error (Noted EventRecord) := do
  let page ← template.page .event
  let doc ← required doc
  return (findRoots doc .event page.roots).bind fun roots =>
    (extractFields doc roots page EventField.all).bind fun values =>
      assemble fun field => values.lookup field

end Almanac.Extraction
