import Almanac.Document.Markup

/-!
# Tokens of a page

What the text of a page is cut into before its tree is built: single characters,
tags, comments and document type declarations.
-/

namespace Almanac.Html

/-- A document type declaration. -/
structure Doctype where
  name : Option String
  publicId : Option String
  systemId : Option String
  /-- Whether the declaration is broken. -/
  broken : Bool
  deriving Repr, DecidableEq, Inhabited

/-- A start tag. -/
structure StartTag where
  name : String
  attributes : List Attribute
  selfClosing : Bool
  deriving Repr, DecidableEq, Inhabited

/-- A token of a page. -/
inductive Token where
  | char (c : Char)
  | startTag (tag : StartTag)
  | endTag (name : String)
  | comment (text : String)
  | doctype (declaration : Doctype)
  | endOfPage
  deriving Repr, DecidableEq, Inhabited

/-- A start tag without attributes. -/
def StartTag.plain (name : String) : StartTag := ⟨name, [], false⟩

/-- The value of an attribute of a tag. -/
def StartTag.value? (tag : StartTag) (name : String) : Option String :=
  (tag.attributes.find? (·.name == name)).map (·.value)

end Almanac.Html
