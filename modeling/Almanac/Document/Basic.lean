import Almanac.Document.Markup
import Almanac.Text.Case
import Almanac.Text.Search

/-!
# Documents

A document is a tree of markup under one root, with its nodes numbered in
document order: the root is zero, a node comes before its content, and the
content of a node before what follows the node. The table of nodes is computed
from the markup once, when the document is made, and is the same whichever node
one starts from.
-/

namespace Almanac

open Almanac.Text

/-! ## The table of nodes -/

/-- What a node is, apart from its content. -/
inductive Label where
  | root
  | element (tag : String) (attributes : List Attribute)
  | text (content : String)
  | comment (content : String)
  | doctype (name : String)
  deriving Repr, DecidableEq, Inhabited

/-- A node: what it is, the node it lies in, the nodes right inside it and the
last node inside it at any depth, which is the node itself when it is empty. -/
structure Entry where
  label : Label
  parent : Option Nat
  children : List Nat
  last : Nat
  deriving Repr, DecidableEq, Inhabited

/-- What a piece of markup is, apart from its content. -/
def Markup.label : Markup → Label
  | .element tag attributes _ => .element tag attributes
  | .text content => .text content
  | .comment content => .comment content
  | .doctype name => .doctype name

namespace Entry

/-- The numbers of the pieces when the first has the number `start`. -/
def numbers (start : Nat) : List Markup → List Nat
  | [] => []
  | piece :: rest => start :: numbers (start + piece.size) rest

mutual

/-- The nodes of a piece with the number `start` inside `parent`. -/
def ofMarkup (parent start : Nat) : Markup → List Entry
  | .element tag attributes content =>
    { label := .element tag attributes
      parent := some parent
      children := numbers (start + 1) content
      last := start + Markup.forestSize content } :: ofForest start (start + 1) content
  | .text content => [⟨.text content, some parent, [], start⟩]
  | .comment content => [⟨.comment content, some parent, [], start⟩]
  | .doctype name => [⟨.doctype name, some parent, [], start⟩]

/-- The nodes of pieces inside `parent`, the first with the number `start`. -/
def ofForest (parent start : Nat) : List Markup → List Entry
  | [] => []
  | piece :: rest => ofMarkup parent start piece ++ ofForest parent (start + piece.size) rest

end

/-- The nodes of a document with the given content, the root first. -/
def table (content : List Markup) : List Entry :=
  ⟨.root, none, numbers 1 content, Markup.forestSize content⟩ :: ofForest 0 1 content

end Entry

/-! ## Documents -/

/-- A document: its content and the table of its nodes. -/
structure Document where
  content : List Markup
  entries : Array Entry
  entries_eq : entries = (Entry.table content).toArray

namespace Document

/-- The document with the given content. -/
def ofMarkup (content : List Markup) : Document := ⟨content, _, rfl⟩

/-- How many nodes a document has, the root included. -/
def size (doc : Document) : Nat := doc.entries.size

/-- The node with a number. -/
def entry? (doc : Document) (n : Nat) : Option Entry := doc.entries[n]?

/-- What a node is. -/
def label? (doc : Document) (n : Nat) : Option Label := (doc.entry? n).map (·.label)

/-- The node that a node lies in; the root lies in none. -/
def parent? (doc : Document) (n : Nat) : Option Nat := (doc.entry? n).bind (·.parent)

/-- The nodes right inside a node, in order. -/
def children (doc : Document) (n : Nat) : List Nat := ((doc.entry? n).map (·.children)).getD []

/-- The last node inside a node, the node itself when it is empty. -/
def last (doc : Document) (n : Nat) : Nat := ((doc.entry? n).map (·.last)).getD n

/-- The tag of an element. -/
def tag? (doc : Document) (n : Nat) : Option String :=
  match doc.label? n with
  | some (.element tag _) => some tag
  | _ => none

/-- The attributes of an element, in the order they are written. -/
def attributes (doc : Document) (n : Nat) : List Attribute :=
  match doc.label? n with
  | some (.element _ attributes) => attributes
  | _ => []

/-- The text of a text node. -/
def text? (doc : Document) (n : Nat) : Option String :=
  match doc.label? n with
  | some (.text content) => some content
  | _ => none

/-- Whether a node is an element. -/
def isElement (doc : Document) (n : Nat) : Bool := (doc.tag? n).isSome

/-- Whether a node is an element with a tag, up to the case of Latin letters. -/
def hasTag (doc : Document) (n : Nat) (tag : String) : Bool :=
  (doc.tag? n).any (equalLatin tag)

/-- What messages call a node: the small-letter tag of an element, or the kind of
any other node. -/
def kind (doc : Document) (n : Nat) : String :=
  match doc.label? n with
  | some (.element tag _) => lowerLatin tag
  | some (.text _) => "#text"
  | some (.comment _) => "#comment"
  | some (.doctype _) => "#doctype"
  | _ => "#document"

/-! ## Walking -/

/-- The nodes inside a node at any depth, in document order. -/
def descendants (doc : Document) (n : Nat) : List Nat := List.range' (n + 1) (doc.last n - n)

/-- The nodes that a node lies in, the nearest first. -/
def ancestors (doc : Document) (n : Nat) : List Nat :=
  match doc.parent? n with
  | none => []
  | some p => if p < n then p :: ancestors doc p else []
termination_by n

/-- The nodes of which a node is one, in document order. -/
def siblings (doc : Document) (n : Nat) : List Nat :=
  match doc.parent? n with
  | none => []
  | some p => doc.children p

/-- The siblings after a node, in document order. -/
def followingSiblings (doc : Document) (n : Nat) : List Nat :=
  (doc.siblings n).filter (n < ·)

/-- The siblings before a node, the nearest first. -/
def precedingSiblings (doc : Document) (n : Nat) : List Nat :=
  ((doc.siblings n).filter (· < n)).reverse

/-- The text of a node: all texts in it one after the other. -/
def stringValue (doc : Document) (n : Nat) : String :=
  concat ((n :: doc.descendants n).filterMap doc.text?)

end Document

end Almanac
