import Almanac.Document.Markup

/-!
# Drafts

A page's tree while it is built. Nodes have numbers and can be moved about until
the tree is read off at the end. A node lies in at most one other; text put next
to a text becomes one text with it. The content of a template is kept apart from
the tree.
-/

namespace Almanac.Html

/-- The language that an element belongs to. -/
inductive Space where
  | html
  | svg
  | math
  deriving Repr, DecidableEq, Inhabited

/-- What a node of a draft is. -/
inductive DraftKind where
  | document
  | fragment
  | element (space : Space) (name : String) (attributes : List Attribute)
  | text (content : String)
  | comment (content : String)
  | doctype (name : String)
  deriving Repr, DecidableEq, Inhabited

/-- A node of a draft. -/
structure DraftNode where
  kind : DraftKind
  parent : Option Nat
  children : Array Nat
  /-- The node that holds the content of a template. -/
  template : Option Nat
  deriving Repr, Inhabited

/-- A place to put a node at. -/
inductive Place where
  | endOf (parent : Nat)
  | before (parent sibling : Nat)
  deriving Repr, DecidableEq

/-- A tree in the making; its first node is the document. -/
structure Draft where
  nodes : Array DraftNode
  deriving Repr, Inhabited

namespace Draft

/-- The draft of an empty page. -/
def empty : Draft := ⟨#[⟨.document, none, #[], none⟩]⟩

/-! ## Looking -/

/-- The node with a number. -/
def node? (d : Draft) (n : Nat) : Option DraftNode := d.nodes[n]?

/-- What a node is. -/
def kind? (d : Draft) (n : Nat) : Option DraftKind := (d.node? n).map (·.kind)

/-- The node that a node lies in. -/
def parent? (d : Draft) (n : Nat) : Option Nat := (d.node? n).bind (·.parent)

/-- The nodes in a node. -/
def children (d : Draft) (n : Nat) : Array Nat := ((d.node? n).map (·.children)).getD #[]

/-- The language and name of an element. -/
def name? (d : Draft) (n : Nat) : Option (Space × String) :=
  match d.kind? n with
  | some (.element space name _) => some (space, name)
  | _ => none

/-- The attributes of an element. -/
def attributes (d : Draft) (n : Nat) : List Attribute :=
  match d.kind? n with
  | some (.element _ _ attributes) => attributes
  | _ => []

/-- Whether a node is an element of the page's own language with this name. -/
def isHtml (d : Draft) (name : String) (n : Nat) : Bool := d.name? n == some (.html, name)

/-- Whether a node is an element of the page's own language with one of the names. -/
def isHtmlIn (d : Draft) (names : List String) (n : Nat) : Bool :=
  match d.name? n with
  | some (.html, name) => names.contains name
  | _ => false

/-! ## Changing -/

/-- A new node in no other. -/
def create (d : Draft) (kind : DraftKind) : Nat × Draft :=
  (d.nodes.size, ⟨d.nodes.push ⟨kind, none, #[], none⟩⟩)

/-- A new element; a template gets a node for its content. -/
def createElement (d : Draft) (space : Space) (name : String) (attributes : List Attribute) :
    Nat × Draft :=
  let (n, d) := d.create (.element space name attributes)
  if space = .html && name = "template" then
    let (content, d) := d.create .fragment
    (n, ⟨d.nodes.modify n fun node => { node with template := some content }⟩)
  else (n, d)

/-- A node taken out of the node it lies in. -/
def detach (d : Draft) (n : Nat) : Draft :=
  match d.parent? n with
  | none => d
  | some p =>
    ⟨(d.nodes.modify p fun node => { node with children := node.children.filter (· != n) }).modify
      n fun node => { node with parent := none }⟩

/-- Where a sibling stands among the nodes in its parent. -/
def indexIn (d : Draft) (parent sibling : Nat) : Nat :=
  ((d.children parent).findIdx? (· == sibling)).getD (d.children parent).size

/-- A node put at a place, from wherever it was. -/
def insert (d : Draft) (place : Place) (n : Nat) : Draft :=
  let d := d.detach n
  match place with
  | .endOf p =>
    ⟨(d.nodes.modify p fun node => { node with children := node.children.push n }).modify n
      fun node => { node with parent := some p }⟩
  | .before p sibling =>
    let i := d.indexIn p sibling
    let children := d.children p
    let children := (children.extract 0 i).push n ++ children.extract i children.size
    ⟨(d.nodes.modify p fun node => { node with children := children }).modify n
      fun node => { node with parent := some p }⟩

/-- The node right before a place. -/
def nodeBefore? (d : Draft) (place : Place) : Option Nat :=
  match place with
  | .endOf p => (d.children p).back?
  | .before p sibling =>
    match d.indexIn p sibling with
    | 0 => none
    | i + 1 => (d.children p)[i]?

/-- A character put at a place, into the text before the place if there is one. -/
def insertChar (d : Draft) (place : Place) (c : Char) : Draft :=
  let existing : Option Nat := (d.nodeBefore? place).filter fun n =>
    match d.kind? n with
    | some (.text _) => true
    | _ => false
  match existing with
  | some n =>
    ⟨d.nodes.modify n fun node =>
      match node with
      | { kind := .text content, parent, children, template } =>
        { kind := .text (content.push c), parent, children, template }
      | node => node⟩
  | none =>
    let (n, d) := d.create (.text (String.ofList [c]))
    d.insert place n

/-- All nodes in one node moved to the end of another. -/
def moveChildren (d : Draft) (source target : Nat) : Draft :=
  (d.children source).foldl (fun d n => d.insert (.endOf target) n) d

/-- The attributes that an element lacks, added to it. -/
def addAttributes (d : Draft) (n : Nat) (more : List Attribute) : Draft :=
  ⟨d.nodes.modify n fun node =>
    match node.kind with
    | .element space name attributes =>
      let lacking := more.filter fun a => !attributes.any (·.name == a.name)
      { node with kind := .element space name (attributes ++ lacking) }
    | _ => node⟩

/-! ## Reading off the tree -/

/-- The markup of a node; `depth` bounds how deep it may lie in others. -/
def toMarkup (d : Draft) : (depth : Nat) → Nat → List Markup
  | 0, _ => []
  | depth + 1, n =>
    match d.node? n with
    | none => []
    | some node =>
      match node.kind with
      | .element _ name attributes =>
        [.element name attributes (node.children.toList.flatMap (d.toMarkup depth))]
      | .text content => [.text content]
      | .comment content => [.comment content]
      | .doctype name => [.doctype name]
      | .document | .fragment => []

/-- The content of the page. -/
def content (d : Draft) : List Markup :=
  (d.children 0).toList.flatMap (d.toMarkup d.nodes.size)

end Draft

end Almanac.Html
