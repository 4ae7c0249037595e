/-!
# Markup

The content of a page as an ordered tree: elements with their attributes and
content, texts, comments and document type declarations.
-/

namespace Almanac

/-- A named value on an element. -/
structure Attribute where
  name : String
  value : String
  deriving Repr, DecidableEq, Inhabited

/-- A piece of a page. -/
inductive Markup where
  | element (tag : String) (attributes : List Attribute) (content : List Markup)
  | text (content : String)
  | comment (content : String)
  | doctype (name : String)
  deriving Repr, Inhabited

namespace Markup

mutual

/-- How many nodes a piece has, itself included. -/
def size : Markup → Nat
  | element _ _ content => 1 + forestSize content
  | text _ | comment _ | doctype _ => 1

/-- How many nodes the pieces have. -/
def forestSize : List Markup → Nat
  | [] => 0
  | piece :: rest => piece.size + forestSize rest

end

/-- The content of a piece; only elements have some. -/
def content : Markup → List Markup
  | element _ _ content => content
  | text _ | comment _ | doctype _ => []

end Markup

end Almanac
