import Almanac.Pattern.Escape

/-!
# Bracketed classes in patterns

A class in brackets lists characters, ranges and other classes; classes are joined by
standing side by side, and intersected and subtracted with doubled signs, from the
left to the right.
-/

namespace Almanac.Pattern

open Almanac.Text

/-- A set and how deeply it is nested. -/
structure Nested (α : Type) where
  value : α
  depth : Nat
  deriving Repr, Inhabited

/-- How two sets are put together. -/
inductive SetOperator where
  | intersection
  | difference
  | symmetricDifference
  deriving Repr, DecidableEq, Inhabited

namespace SetOperator

/-- The set of two sets. -/
def apply : SetOperator → CharSet → CharSet → CharSet
  | intersection => .intersection
  | difference => .difference
  | symmetricDifference => .symmetricDifference

/-- The operator with a sign, which is written twice. -/
def ofSign? : Char → Option SetOperator
  | '&' => some intersection
  | '-' => some difference
  | '~' => some symmetricDifference
  | _ => none

/-- An operator at the front. -/
def read? (cs : List Char) : Read SetOperator cs := do
  let (c, rest) ← readOne cs
  let operator ← ofSign? c
  let ((), after) ← readThis c rest.list
  return (operator, rest.trans after)

end SetOperator

/-- What has been read of a class: what stands before the last operator, with the
operator, and the items behind it, last first. -/
structure OpenClass where
  left : Option (Nested CharSet × SetOperator) := none
  items : List (Nested CharSet) := []
  deriving Inhabited

/-- The set of listed items. -/
def joinItems (items : List (Nested CharSet)) : Nested CharSet :=
  match items with
  | [] => ⟨.none, 0⟩
  | [item] => item
  | items =>
    ⟨.unionAll (items.reverse.map (·.value)), 1 + (items.map (·.depth)).foldl max 0⟩

namespace OpenClass

/-- The set of all that has been read. -/
def close (c : OpenClass) : Nested CharSet :=
  let right := joinItems c.items
  match c.left with
  | none => right
  | some (left, op) => ⟨op.apply left.value right.value, 1 + max left.depth right.depth⟩

/-- Goes on behind an operator. -/
def operator (c : OpenClass) (op : SetOperator) : OpenClass := { left := some (c.close, op) }

/-- Adds an item. -/
def add (c : OpenClass) (item : Nested CharSet) : OpenClass := { c with items := item :: c.items }

end OpenClass

namespace Flags

/-- The set of a class with its items, case and complement settled; without Unicode
only the first 128 characters may be in it. -/
def settle (flags : Flags) (negated : Bool) (set : CharSet) : Option CharSet :=
  let set := flags.foldCase set
  let set := if negated then .complement set else set
  if flags.unicode || set.avoidsUpperBytes then some set else none

end Flags

/-- A class by name in brackets of its own: what stands behind its opening bracket. -/
def readNamedClass (flags : Flags) (cs : List Char) : Read (Option CharSet) cs := do
  let ((), rest) ← readThis ':' cs
  let (negated, body) := readMark '^' rest.list
  let behind := NoLonger.dropWhile (· != ':') body.list
  let ((), after) ← readThese [':', ']'] behind.list
  let set ← CharSet.named.lookup (String.ofList (body.list.takeWhile (· != ':')))
  return (flags.settle negated set, rest.trans (body.trans (behind.trans after)))

/-- A character or class in brackets. -/
def readClassAtom (flags : Flags) (cs : List Char) : Read Atom cs := do
  let (c, rest) ← readOne cs
  if c = '\\' then
    let (atom, after) ← readEscape flags rest.list
    return (atom, rest.trans after)
  else return (.char c false, rest)

/-- The character of an atom that can stand in a class. -/
def Flags.classChar? (flags : Flags) : Atom → Option Char
  | .char c byte =>
    if flags.unicode || c.toNat < 128 || (byte && c.toNat < 256) then some c else none
  | _ => none

/-- The set of an atom that can stand in a class. -/
def Flags.classSet? (flags : Flags) : Atom → Option CharSet
  | .set set => some set
  | .place _ => none
  | atom => (flags.classChar? atom).map .only

/-- A range, or one character or class. -/
def readClassItem (flags : Flags) (cs : List Char) : Read CharSet cs := do
  let (first, rest) ← readClassAtom flags cs
  let alone : Read CharSet cs := do
    let set ← flags.classSet? first
    return (set, rest.trans (flags.skip rest.list))
  let (c, behind) ← flags.next? rest.list
  if c ≠ '-' then alone
  else
    let front := flags.skip behind.list
    let (d, _) ← readOne front.list
    if d = ']' || d = '-' then alone
    else
      let (last, after) ← readClassAtom flags front.list
      let first ← flags.classChar? first
      let last ← flags.classChar? last
      if first ≤ last then
        return (.range first last, rest.trans (behind.trans (front.trans after)))
      else none

/-- How many dashes are at the front. -/
def readDashes (flags : Flags) (cs : List Char) : Nat × NoLonger cs :=
  match readThis '-' cs with
  | none => (0, .all cs)
  | some ((), rest) =>
    let front := flags.skip rest.list
    let (count, after) := readDashes flags front.list
    (count + 1, (rest.trans (front.trans after)).toNoLonger)
termination_by cs.length
decreasing_by grind

/-- The characters that stand for themselves only at the front of a class: dashes, or
a closing bracket. -/
def readClassStart (flags : Flags) (cs : List Char) : OpenClass × NoLonger cs :=
  match readDashes flags cs with
  | (0, front) =>
    match readThis ']' front.list with
    | some ((), rest) =>
      ({ items := [⟨.only ']', 0⟩] }, front.trans (rest.trans (flags.skip rest.list)))
    | none => ({}, front)
  | (count, front) => ({ items := List.replicate count ⟨.only '-', 0⟩ }, front)

/-- What stands at the front of a class behind its bracket: whether it is negated,
and the characters that stand for themselves only there. -/
def readClassFront (flags : Flags) (cs : List Char) : ReadMaybe (Bool × OpenClass) cs :=
  let front := flags.skip cs
  let (negated, body) := readMark '^' front.list
  let body := front.trans (body.trans (flags.skip body.list))
  let (start, rest) := readClassStart flags body.list
  if rest.list.isEmpty then none else some ((negated, start), body.trans rest)

mutual

/-- A class behind its opening bracket, up to its closing one. -/
def readClass (flags : Flags) (cs : List Char) : Read (Nested CharSet) cs := do
  let ((negated, front), rest) ← readClassFront flags cs
  let (set, after) ← readClassItems flags front rest.list
  let settled ← flags.settle negated set.value
  return (⟨settled, set.depth + 1⟩, rest.transShorter after)
termination_by (cs.length, 1)
decreasing_by grind

/-- The items of a class, up to its closing bracket. -/
def readClassItems (flags : Flags) (read : OpenClass) (cs : List Char) :
    Read (Nested CharSet) cs :=
  let front := flags.skip cs
  match SetOperator.read? front.list with
  | some (operator, rest) => do
    let (set, after) ← readClassItems flags (read.operator operator) rest.list
    return (set, front.transShorter (rest.trans after))
  | none => do
    let (c, rest) ← readOne front.list
    if c = ']' then return (read.close, front.transShorter rest)
    else if c = '[' then
      match readNamedClass flags rest.list with
      | some (set, rest') =>
        let set ← set
        let (set, after) ← readClassItems flags (read.add ⟨set, 0⟩) rest'.list
        return (set, front.transShorter (rest.trans (rest'.trans after)))
      | none =>
        let (set, rest') ← readClass flags rest.list
        let (set, after) ← readClassItems flags (read.add set) rest'.list
        return (set, front.transShorter (rest.trans (rest'.trans after)))
    else
      let (set, rest) ← readClassItem flags front.list
      let (set, after) ← readClassItems flags (read.add ⟨set, 0⟩) rest.list
      return (set, front.transShorter (rest.trans after))
termination_by (cs.length, 0)
decreasing_by all_goals grind

end

end Almanac.Pattern
