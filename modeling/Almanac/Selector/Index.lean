import Almanac.Selector.Evaluation

/-!
# Indexes of documents

A node of a parsed page is known by a key, which says nothing about where the node stands. An index
gives each key the place of its node in the document: the nodes are numbered from the top of the
tree on, in the order in which they are listed below it, and a key that has a number keeps it. It is
made by climbing from any node to the top, and is then used for every selector on the page: items
are sorted by the numbers of their nodes, and absolute paths start from the top (`evaluateIn`).
-/

namespace Almanac

/-- The node that has no parent, found by climbing from a node. -/
def Document.top (doc : Document) (n : Nat) : Nat :=
  match doc.parent? n with
  | none => n
  | some p => if p < n then top doc p else n
termination_by n

namespace Selector

/-- A document whose nodes are known by keys, no two by the same. -/
structure KeyedDocument where
  doc : Document
  key : Nat → Nat
  key_injective : ∀ m n, m < doc.size → n < doc.size → key m = key n → m = n

/-- The top of a document, and keys with their numbers in the order in which they are put in. -/
structure DocumentIndex where
  root : Nat
  order : List (Nat × Nat)
  deriving Repr, DecidableEq

namespace DocumentIndex

/-- How many keys have a number. -/
def size (index : DocumentIndex) : Nat := index.order.length

/-- The number of a key. -/
def number? (index : DocumentIndex) (key : Nat) : Option Nat := index.order.lookup key

/-- Gives a key the next number, unless it has one. -/
def insert (index : DocumentIndex) (key : Nat) : DocumentIndex :=
  match index.number? key with
  | some _ => index
  | none => { index with order := index.order ++ [(key, index.size)] }

/-- The index with the given top, whose key is the first, and the keys of some nodes behind it. -/
def build (tree : KeyedDocument) (root : Nat) (nodes : List Nat) : DocumentIndex :=
  (nodes.map tree.key).foldl insert ⟨root, [(tree.key root, 0)]⟩

/-- The index of the document that a node belongs to. -/
def ofNode (tree : KeyedDocument) (n : Nat) : DocumentIndex :=
  build tree (tree.doc.top n) (tree.doc.descendants (tree.doc.top n))

/-- The place of a node, behind all others if its key has no number. -/
def positionOf (index : DocumentIndex) (tree : KeyedDocument) (n : Nat) : Nat :=
  (index.number? (tree.key n)).getD (Nat.pow 2 64 - 1)

/-! ## Items by their numbers -/

/-- What an item is sorted by: the place of the node it is or belongs to, and zero for the node
itself or one more than the slot of an attribute. -/
def sortKey (index : DocumentIndex) (tree : KeyedDocument) : Item → Nat × Nat
  | .node n => (index.positionOf tree n, 0)
  | .attr owner slot => (index.positionOf tree owner, slot + 1)

/-- A list of items of which those with one key stand together, with the first of each key. -/
def dropSameKeys (key : Item → Nat × Nat) : List Item → List Item
  | [] => []
  | [a] => [a]
  | a :: b :: rest =>
    if key a = key b then dropSameKeys key (a :: rest) else a :: dropSameKeys key (b :: rest)
termination_by items => items.length

/-- The items of a list by their keys, one for each key. -/
def inOrder (index : DocumentIndex) (tree : KeyedDocument) (items : List Item) : List Item :=
  let key := index.sortKey tree
  dropSameKeys key (items.mergeSort fun a b =>
    (key a).1 < (key b).1 || ((key a).1 == (key b).1 && (key a).2 ≤ (key b).2))

/-- The items that a step leads to from an item before its predicates are looked at. -/
def candidates (index : DocumentIndex) (tree : KeyedDocument) (axis : Axis) (test : NodeTest)
    (item : Item) : List Item :=
  let direct := (item.onAxis tree.doc axis).filter (Item.passes tree.doc axis test)
  match item.impliedRows tree.doc axis test with
  | [] => direct
  | rows => index.inOrder tree (direct ++ rows)

end DocumentIndex

/-! ## Evaluation -/

mutual

/-- The value of an expression at a focus, by an index. -/
def evaluateIn (tree : KeyedDocument) (index : DocumentIndex) (expr : Expr) (focus : Focus) :
    Value :=
  match expr with
  | .operation operator left right =>
    operator.apply tree.doc (evaluateIn tree index left focus) (evaluateIn tree index right focus)
  | .union branches => .items (index.inOrder tree (evaluateBranchesIn tree index branches focus))
  | .path absolute steps =>
    .items (takeStepsFromIn tree index steps
      [if absolute then .node index.root else focus.item])
  | .filter base predicates steps =>
    match evaluateIn tree index base focus with
    | .items items =>
      .items (takeStepsFromIn tree index steps (keepAllIn tree index predicates items))
    | _ => .items []
  | .literal text => .text text
  | .number value => .number value
  | .call function arguments =>
    function.apply tree.doc focus (evaluateArgumentsIn tree index arguments focus)
termination_by structural expr

/-- The items of all branches of a union, one branch after the other. -/
def evaluateBranchesIn (tree : KeyedDocument) (index : DocumentIndex) (branches : List Expr)
    (focus : Focus) : List Item :=
  match branches with
  | [] => []
  | branch :: rest =>
    (evaluateIn tree index branch focus).toItems ++ evaluateBranchesIn tree index rest focus
termination_by structural branches

/-- The values of the arguments of a call. -/
def evaluateArgumentsIn (tree : KeyedDocument) (index : DocumentIndex) (arguments : List Expr)
    (focus : Focus) : List Value :=
  match arguments with
  | [] => []
  | argument :: rest =>
    evaluateIn tree index argument focus :: evaluateArgumentsIn tree index rest focus
termination_by structural arguments

/-- The items that steps lead to from the items at hand. -/
def takeStepsFromIn (tree : KeyedDocument) (index : DocumentIndex) (steps : List (Step Expr))
    (items : List Item) : List Item :=
  match steps with
  | [] => items
  | ⟨axis, test, predicates⟩ :: rest =>
    takeStepsFromIn tree index rest (index.inOrder tree (items.flatMap fun item =>
      keepAllIn tree index predicates (index.candidates tree axis test item)))
termination_by structural steps

/-- The items that pass every predicate, each predicate numbering the items that
passed those before it. -/
def keepAllIn (tree : KeyedDocument) (index : DocumentIndex) (predicates : List Expr)
    (items : List Item) : List Item :=
  match predicates with
  | [] => items
  | predicate :: rest =>
    keepAllIn tree index rest ((items.zipIdx.filter fun (item, i) =>
      (evaluateIn tree index predicate ⟨item, i + 1, items.length⟩).keeps (i + 1)).map (·.1))
termination_by structural predicates

end

/-- The value of an expression at a node, by an index. -/
def valueAtIn (tree : KeyedDocument) (index : DocumentIndex) (expr : Expr) (context : Nat) :
    Value :=
  evaluateIn tree index expr ⟨.node context, 1, 1⟩

/-- The texts that an expression gives at a node, by an index. -/
def selectStringsIn (tree : KeyedDocument) (index : DocumentIndex) (expr : Expr)
    (context : Nat) : List String :=
  (valueAtIn tree index expr context).texts tree.doc

/-- The nodes among the items that an expression gives at a node, by an index. -/
def selectNodesIn (tree : KeyedDocument) (index : DocumentIndex) (expr : Expr)
    (context : Nat) : List Nat :=
  (valueAtIn tree index expr context).toItems.filterMap fun
    | .node n => some n
    | .attr _ _ => none

end Selector

end Almanac
