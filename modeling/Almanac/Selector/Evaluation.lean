import Almanac.Selector.Parser
import Almanac.Selector.Value

/-!
# The value of a selector

An expression is evaluated at an item of a document. A step is taken from every
item at hand; the predicates of a step number the items it reaches from one
item, those of a filter number all items of its base. After each step the items
are put in document order, so that a path lists every item once.
-/

namespace Almanac.Selector

mutual

/-- The value of an expression at a focus. -/
def evaluate (doc : Document) (expr : Expr) (focus : Focus) : Value :=
  match expr with
  | .operation operator left right =>
    operator.apply doc (evaluate doc left focus) (evaluate doc right focus)
  | .union branches => .items (Item.inDocumentOrder (evaluateBranches doc branches focus))
  | .path absolute steps =>
    .items (takeStepsFrom doc steps [if absolute then .node 0 else focus.item])
  | .filter base predicates steps =>
    match evaluate doc base focus with
    | .items items => .items (takeStepsFrom doc steps (keepAll doc predicates items))
    | _ => .items []
  | .literal text => .text text
  | .number value => .number value
  | .call function arguments => function.apply doc focus (evaluateArguments doc arguments focus)
termination_by structural expr

/-- The items of all branches of a union, one branch after the other. -/
def evaluateBranches (doc : Document) (branches : List Expr) (focus : Focus) : List Item :=
  match branches with
  | [] => []
  | branch :: rest =>
    (evaluate doc branch focus).toItems ++ evaluateBranches doc rest focus
termination_by structural branches

/-- The values of the arguments of a call. -/
def evaluateArguments (doc : Document) (arguments : List Expr) (focus : Focus) : List Value :=
  match arguments with
  | [] => []
  | argument :: rest => evaluate doc argument focus :: evaluateArguments doc rest focus
termination_by structural arguments

/-- The items that steps lead to from the items at hand. -/
def takeStepsFrom (doc : Document) (steps : List (Step Expr)) (items : List Item) : List Item :=
  match steps with
  | [] => items
  | ⟨axis, test, predicates⟩ :: rest =>
    takeStepsFrom doc rest (Item.inDocumentOrder (items.flatMap fun item =>
      keepAll doc predicates (item.candidates doc axis test)))
termination_by structural steps

/-- The items that pass every predicate, each predicate numbering the items that
passed those before it. -/
def keepAll (doc : Document) (predicates : List Expr) (items : List Item) : List Item :=
  match predicates with
  | [] => items
  | predicate :: rest =>
    keepAll doc rest ((items.zipIdx.filter fun (item, i) =>
      (evaluate doc predicate ⟨item, i + 1, items.length⟩).keeps (i + 1)).map (·.1))
termination_by structural predicates

end

/-- The value of an expression at a node. -/
def valueAt (doc : Document) (expr : Expr) (context : Nat) : Value :=
  evaluate doc expr ⟨.node context, 1, 1⟩

/-- The texts that an expression gives at a node: those of its items in document
order, or the one of its value. -/
def selectStrings (doc : Document) (expr : Expr) (context : Nat) : List String :=
  (valueAt doc expr context).texts doc

/-- The nodes among the items that an expression gives at a node. -/
def selectNodes (doc : Document) (expr : Expr) (context : Nat) : List Nat :=
  (valueAt doc expr context).toItems.filterMap fun
    | .node n => some n
    | .attr _ _ => none

end Almanac.Selector
