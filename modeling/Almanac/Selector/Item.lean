import Almanac.Document.Basic
import Almanac.Selector.Expr

/-!
# Items and axes

What a selector picks out: nodes of a document and attributes of its elements.
Items have an order, the document order, in which a node comes before its
attributes and these before the node's content. The axes list items with their
numbering direction; `inDocumentOrder` sorts any list of items and drops the
repetitions.
-/

namespace Almanac.Selector

open Almanac.Text

/-- A node, or the attribute of an element in a slot of its attribute list. -/
inductive Item where
  | node (number : Nat)
  | attr (owner slot : Nat)
  deriving Repr, DecidableEq, Inhabited

namespace Item

/-! ## Order -/

/-- The place of an item in the document: the node it is or belongs to, and zero
for the node itself or one more than the slot of an attribute. -/
def place : Item → Nat × Nat
  | node number => (number, 0)
  | attr owner slot => (owner, slot + 1)

/-- Whether an item comes no later than another in the document. -/
def notAfter (a b : Item) : Bool :=
  a.place.1 < b.place.1 || (a.place.1 == b.place.1 && a.place.2 ≤ b.place.2)

theorem place_injective {a b : Item} (h : a.place = b.place) : a = b := by
  cases a <;> cases b <;> simp_all [place]

/-- A list of items in which equal items stand together, without repetitions. -/
def dropRepeats : List Item → List Item
  | [] => []
  | [a] => [a]
  | a :: b :: rest => if a = b then dropRepeats (b :: rest) else a :: dropRepeats (b :: rest)

/-- The items of a list in document order, each once. -/
def inDocumentOrder (items : List Item) : List Item := dropRepeats (items.mergeSort notAfter)

/-! ## Contents -/

/-- The text of an item: the value of an attribute, or all text in a node. -/
def stringValue (doc : Document) : Item → String
  | node number => doc.stringValue number
  | attr owner slot => (((doc.attributes owner)[slot]?).map (·.value)).getD ""

/-! ## Axes -/

/-- The attributes of an element as items. -/
def attributesOf (doc : Document) (n : Nat) : List Item :=
  (List.range (doc.attributes n).length).map (attr n)

/-- The items on an axis of an item, in the order in which the axis numbers them.
From an attribute only the axes upwards lead anywhere. -/
def onAxis (doc : Document) (axis : Axis) : Item → List Item
  | node n =>
    match axis with
    | .child => (doc.children n).map node
    | .descendant => (doc.descendants n).map node
    | .descendantOrSelf => (n :: doc.descendants n).map node
    | .parent => (doc.parent? n).toList.map node
    | .ancestor => (doc.ancestors n).map node
    | .ancestorOrSelf => (n :: doc.ancestors n).map node
    | .itself => [node n]
    | .followingSibling => (doc.followingSiblings n).map node
    | .precedingSibling => (doc.precedingSiblings n).map node
    | .attributes => attributesOf doc n
  | attr owner slot =>
    match axis with
    | .itself => [attr owner slot]
    | .parent => [node owner]
    | .ancestor => (owner :: doc.ancestors owner).map node
    | .ancestorOrSelf => attr owner slot :: (owner :: doc.ancestors owner).map node
    | _ => []

/-- Whether an item that was reached along an axis passes a node test. An
attribute has a name to be tested only on the attribute axis. -/
def passes (doc : Document) (axis : Axis) (test : NodeTest) : Item → Bool
  | node n =>
    match test with
    | .name text => doc.hasTag n text
    | .any => doc.isElement n
    | .text => (doc.text? n).isSome
    | .node => true
  | attr owner slot =>
    match test with
    | .name text =>
      axis = .attributes && ((doc.attributes owner)[slot]?).any fun a => equalLatin text a.name
    | .any => axis = .attributes
    | .text => false
    | .node => true

/-! ## Rows of a table -/

/-- The rows one level down in the bodies of a table, for a step from the table
to its rows. A page may leave the body of a table out, which its reading then
puts in, so such a step reaches these rows as well. -/
def impliedRows (doc : Document) (axis : Axis) (test : NodeTest) : Item → List Item
  | node n =>
    if axis = .child && test.isName "tr" && doc.hasTag n "table" then
      ((((doc.children n).filter (doc.hasTag · "tbody")).flatMap doc.children).filter
        (doc.hasTag · "tr")).map node
    else []
  | attr _ _ => []

/-- The items that a step leads to from an item before its predicates are looked
at, in the order in which predicates number them. -/
def candidates (doc : Document) (axis : Axis) (test : NodeTest) (item : Item) : List Item :=
  let direct := (onAxis doc axis item).filter (passes doc axis test)
  match impliedRows doc axis test item with
  | [] => direct
  | rows => inDocumentOrder (direct ++ rows)

end Item

end Almanac.Selector
