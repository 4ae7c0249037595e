import Almanac.Number.Decimal
import Almanac.Selector.Item

/-!
# Values of selector expressions

An expression has items, a text, a number or a truth value for its value. Each
kind can be read as a text, a number or a truth value; a comparison of items
holds when it holds for some of them.
-/

namespace Almanac.Selector

/-- The value of an expression. -/
inductive Value where
  | items (items : List Item)
  | text (text : String)
  | number (number : Number)
  | truth (truth : Bool)
  deriving Repr, DecidableEq, Inhabited

namespace Value

/-! ## Reading a value as another kind -/

/-- The items of a value; only a value of items has some. -/
def toItems : Value → List Item
  | items found => found
  | _ => []

/-- A value as a truth value: whether there is an item, a character, or a number
other than zero. -/
def toBool : Value → Bool
  | items found => !found.isEmpty
  | text s => !s.toList.isEmpty
  | number n => n.isNonzero
  | truth b => b

/-- The text of a truth value. -/
def truthText (b : Bool) : String := if b then "true" else "false"

/-- A value as a text: that of the first item, empty when there is none. -/
def toText (doc : Document) : Value → String
  | items found => ((found.head?).map (Item.stringValue doc)).getD ""
  | text s => s
  | number n => n.text
  | truth b => truthText b

/-- The texts that a value gives: one for each item, or one. -/
def texts (doc : Document) : Value → List String
  | items found => found.map (Item.stringValue doc)
  | value => [value.toText doc]

/-! ## Comparing -/

/-- What a comparison looks at: a text or a number. -/
inductive Atom where
  | text (text : String)
  | number (number : Number)

/-- The number that an atom is or denotes. -/
def Atom.toNumber : Atom → Number
  | .text s => Number.ofText s
  | .number n => n

/-- The atoms of a value: the text of each item, or the value itself. -/
def atoms (doc : Document) : Value → List Atom
  | items found => found.map fun item => .text (item.stringValue doc)
  | text s => [.text s]
  | number n => [.number n]
  | truth b => [.number (Number.ofBool b)]

end Value

namespace Comparison

/-- A comparison of numbers; what is no number only differs from everything. -/
def ofNumbers (comparison : Comparison) (a b : Number) : Bool :=
  match comparison with
  | equal => a.equal b
  | notEqual => !a.equal b
  | less => a.less b
  | lessEqual => a.less b || a.equal b
  | greater => b.less a
  | greaterEqual => b.less a || a.equal b

/-- A comparison of atoms: two texts are equal as texts, all else is numbers. -/
def ofAtoms (comparison : Comparison) (a b : Value.Atom) : Bool :=
  match comparison, a, b with
  | equal, .text s, .text t => s == t
  | notEqual, .text s, .text t => s != t
  | _, _, _ => comparison.ofNumbers a.toNumber b.toNumber

/-- A comparison of values: next to a truth value as truth values, otherwise
between some atom of the one and some atom of the other. -/
def ofValues (doc : Document) (comparison : Comparison) (a b : Value) : Bool :=
  match a, b with
  | .truth _, _ | _, .truth _ =>
    comparison.ofNumbers (Number.ofBool a.toBool) (Number.ofBool b.toBool)
  | _, _ => (a.atoms doc).any fun x => (b.atoms doc).any fun y => comparison.ofAtoms x y

end Comparison

/-! ## Operators and functions -/

/-- The item that an expression is evaluated at, its place in a list of items
counted from one, and the length of the list. -/
structure Focus where
  item : Item
  position : Nat
  size : Nat
  deriving Repr, DecidableEq

/-- The value of an operator between two values. -/
def Operator.apply (doc : Document) (operator : Operator) (a b : Value) : Value :=
  match operator with
  | .or => .truth (a.toBool || b.toBool)
  | .and => .truth (a.toBool && b.toBool)
  | .compare comparison => .truth (comparison.ofValues doc a b)

/-- The text of an argument. One that is left out is the text of the item at hand. -/
def Focus.argumentText (doc : Document) (focus : Focus) (arguments : List Value) (i : Nat) :
    String :=
  match arguments[i]? with
  | some value => value.toText doc
  | none => focus.item.stringValue doc

open Almanac.Text in
/-- The value of a function of arguments. -/
def Function.apply (doc : Document) (focus : Focus) (function : Function)
    (arguments : List Value) : Value :=
  let textAt := focus.argumentText doc arguments
  match function with
  | contains => .truth (containsText (textAt 0) (textAt 1))
  | startsWith => .truth (beginsWith (textAt 0) (textAt 1))
  | normalizeSpace => .text (normalizeBlank (textAt 0))
  | not => .truth (!((arguments[0]?).map Value.toBool).getD false)
  | position => .number (Number.ofNat focus.position)
  | last => .number (Number.ofNat focus.size)
  | string => .text (textAt 0)
  | stringLength => .number (Number.ofNat (textAt 0).toList.length)
  | concat => .text (Text.concat (arguments.map (Value.toText doc)))
  | count => .number (Number.ofNat ((arguments[0]?).map Value.toItems |>.getD []).length)
  | trueValue => .truth true
  | falseValue => .truth false

/-- Whether a predicate with this value keeps the item at a position: a number
keeps the item with that position. -/
def Value.keeps (value : Value) (position : Nat) : Bool :=
  match value with
  | .number n => n.equal (Number.ofNat position)
  | value => value.toBool

end Almanac.Selector
