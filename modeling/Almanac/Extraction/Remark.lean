import Almanac.Selector.Error
import Almanac.Template.Basic
import Almanac.Text.Search
import Almanac.Url.Error

/-!
# Remarks

What can go wrong while a page is read without stopping the work: it is remarked on,
and what is left is done.
-/

namespace Almanac

open Text

/-- What went wrong while a page was read. -/
inductive Remark where
  /-- A selector, of the roots or of a field, is none. -/
  | invalidSelector (source owner : String) (cause : Selector.Error)
  /-- The root selectors of a page find nothing. -/
  | noRoot (page : Page)
  /-- The calendar page has no rule for links. -/
  | noLinkRule
  /-- There is no link on the calendar page. -/
  | noLinks
  /-- A link stands for no address. -/
  | unresolvedLink (link : String) (cause : Url.Error)
  /-- A pattern of a field is none. -/
  | invalidPattern (pattern field : String)
  /-- The key of a group of a field is no number. -/
  | notGroupNumber (key field : String)
  /-- A field that has one value has several. -/
  | surplus (field : EventField)
  /-- A date cannot be read. -/
  | unreadableDatetime (raw : String)
  deriving Repr, DecidableEq

namespace Remark

/-- The text of a remark. -/
def message : Remark → String
  | invalidSelector source owner cause =>
    concat ["invalid selector '", source, "' for '", owner, "': ", cause.message]
  | noRoot page => concat ["No root element of '", page.name, "' page found"]
  | noLinkRule => concat ["No '", eventLinkKey, "' field defined for 'calendar' page"]
  | noLinks => concat ["No '", eventLinkKey, "' values found on 'calendar' page"]
  | unresolvedLink link cause =>
    concat ["could not resolve event url '", link, "': ", cause.message]
  | invalidPattern pattern field => concat ["invalid regex '", pattern, "' for '", field, "'"]
  | notGroupNumber key field =>
    concat ["regex group '", key, "' of '", field, "' is not a group index"]
  | surplus field => concat [field.key, " does not expect more than one value"]
  | unreadableDatetime raw => concat ["could not normalize datetime '", raw, "'"]

end Remark

/-- A value, and the remarks made on the way to it. -/
structure Noted (α : Type) where
  value : α
  remarks : List Remark := []

namespace Noted

variable {α β : Type}

/-- Goes on from a value, with the remarks made before in front. -/
def bind (n : Noted α) (next : α → Noted β) : Noted β :=
  let m := next n.value
  ⟨m.value, n.remarks ++ m.remarks⟩

/-- What can be read of some things, with a remark on each of the others. -/
def readAll (read : α → Except Remark β) (items : List α) : Noted (List β) where
  value := items.filterMap fun a => (read a).toOption
  remarks := items.filterMap fun a =>
    match read a with
    | .ok _ => none
    | .error remark => some remark

end Noted

end Almanac
