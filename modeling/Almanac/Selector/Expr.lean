import Almanac.Number.Basic
import Almanac.Text.Case

/-!
# Selector expressions

An expression reads off a document either items (nodes and attributes) or one
text, number or truth value. A location path walks from items along axes, one
step after the other; each step keeps the items that pass its node test and its
predicates. The tables of names for axes and functions are here, beside the
argument counts that functions take.
-/

namespace Almanac.Selector

/-! ## Steps -/

/-- A direction to walk in from an item. -/
inductive Axis where
  | child
  | descendant
  | descendantOrSelf
  | parent
  | ancestor
  | ancestorOrSelf
  | itself
  | followingSibling
  | precedingSibling
  | attributes
  deriving Repr, DecidableEq, Inhabited

namespace Axis

/-- Every axis. -/
def all : List Axis :=
  [child, descendant, descendantOrSelf, parent, ancestor, ancestorOrSelf, itself,
    followingSibling, precedingSibling, attributes]

/-- The name of an axis in an expression. -/
def name : Axis → String
  | child => "child"
  | descendant => "descendant"
  | descendantOrSelf => "descendant-or-self"
  | parent => "parent"
  | ancestor => "ancestor"
  | ancestorOrSelf => "ancestor-or-self"
  | itself => "self"
  | followingSibling => "following-sibling"
  | precedingSibling => "preceding-sibling"
  | attributes => "attribute"

/-- The axis with a name. -/
def ofName? (text : String) : Option Axis := all.find? fun axis => axis.name == text

end Axis

/-- What an item on an axis has to be. -/
inductive NodeTest where
  /-- An element, or on the attribute axis an attribute, with this name. -/
  | name (text : String)
  /-- Any element, or on the attribute axis any attribute. -/
  | any
  /-- A text node. -/
  | text
  /-- Anything. -/
  | node
  deriving Repr, DecidableEq, Inhabited

/-- Whether a node test asks for a name, up to the case of Latin letters. -/
def NodeTest.isName (test : NodeTest) (name : String) : Bool :=
  match test with
  | .name asked => Text.equalLatin asked name
  | _ => false

/-- One step of a path, with predicates of the type `ε`. -/
structure Step (ε : Type) where
  axis : Axis
  test : NodeTest
  predicates : List ε
  deriving Repr

/-- A step to every node on an axis. -/
def Step.toAny {ε : Type} (axis : Axis) : Step ε := ⟨axis, .node, []⟩

/-! ## Operators and functions -/

/-- A comparison. -/
inductive Comparison where
  | equal
  | notEqual
  | less
  | lessEqual
  | greater
  | greaterEqual
  deriving Repr, DecidableEq, Inhabited

/-- An operator between two operands. -/
inductive Operator where
  | or
  | and
  | compare (comparison : Comparison)
  deriving Repr, DecidableEq, Inhabited

/-- A function. -/
inductive Function where
  | contains
  | startsWith
  | normalizeSpace
  | not
  | position
  | last
  | string
  | stringLength
  | concat
  | count
  | trueValue
  | falseValue
  deriving Repr, DecidableEq, Inhabited

namespace Function

/-- Every function. -/
def all : List Function :=
  [contains, startsWith, normalizeSpace, not, position, last, string, stringLength, concat,
    count, trueValue, falseValue]

/-- The name of a function in an expression. -/
def name : Function → String
  | contains => "contains"
  | startsWith => "starts-with"
  | normalizeSpace => "normalize-space"
  | not => "not"
  | position => "position"
  | last => "last"
  | string => "string"
  | stringLength => "string-length"
  | concat => "concat"
  | count => "count"
  | trueValue => "true"
  | falseValue => "false"

/-- The function with a name. -/
def ofName? (text : String) : Option Function := all.find? fun f => f.name == text

/-- Whether a function takes `n` arguments. -/
def takes : Function → Nat → Bool
  | contains, n | startsWith, n => n == 2
  | normalizeSpace, n | string, n | stringLength, n => n ≤ 1
  | not, n | count, n => n == 1
  | position, n | last, n | trueValue, n | falseValue, n => n == 0
  | concat, n => 2 ≤ n

end Function

/-! ## Expressions -/

/-- A selector expression. -/
inductive Expr where
  /-- Two operands and an operator between them. -/
  | operation (operator : Operator) (left right : Expr)
  /-- The items of all branches. -/
  | union (branches : List Expr)
  /-- The items that steps lead to, from the document or from the item at hand. -/
  | path (absolute : Bool) (steps : List (Step Expr))
  /-- The items of `base` that pass the predicates, and from these on the steps. -/
  | filter (base : Expr) (predicates : List Expr) (steps : List (Step Expr))
  /-- A text. -/
  | literal (text : String)
  /-- A number. -/
  | number (value : Number)
  /-- A function of arguments. -/
  | call (function : Function) (arguments : List Expr)
  deriving Repr, Inhabited

end Almanac.Selector
