import Almanac.Text.Case

/-!
# Sets of characters

The sets of characters that a pattern can read: ranges, the three classes of
digits, white space and word characters, and what is made of sets by joining,
intersecting, subtracting, complementing and ignoring case.
-/

namespace Almanac.Pattern

open Almanac.Text

/-- A set of characters. -/
inductive CharSet where
  | none
  | range (first last : Char)
  | decimalDigit
  | blank
  | wordChar
  | points (points : StridedPoints)
  | union (a b : CharSet)
  | intersection (a b : CharSet)
  | difference (a b : CharSet)
  | symmetricDifference (a b : CharSet)
  | complement (a : CharSet)
  /-- The characters that equal a member when case is ignored. -/
  | folded (a : CharSet)
  /-- The characters that equal a member when the case of Latin letters is ignored. -/
  | latinFolded (a : CharSet)
  deriving Repr, Inhabited, DecidableEq

namespace CharSet

/-- The capital and the small form of a Latin letter; any other character alone. -/
def latinForms (c : Char) : List Char :=
  if 'A' ≤ c && c ≤ 'Z' then [c, Char.ofNat (c.toNat + 32)]
  else if 'a' ≤ c && c ≤ 'z' then [c, Char.ofNat (c.toNat - 32)]
  else [c]

/-- Whether a character is in the set. -/
def contains : CharSet → Char → Bool
  | none, _ => false
  | range first last, c => first ≤ c && c ≤ last
  | decimalDigit, c => isDecimalDigit c
  | blank, c => isBlank c
  | wordChar, c => isWordChar c
  | points ps, c => ps.contains c.toNat
  | union a b, c => a.contains c || b.contains c
  | intersection a b, c => a.contains c && b.contains c
  | difference a b, c => a.contains c && !b.contains c
  | symmetricDifference a b, c => a.contains c != b.contains c
  | complement a, c => !a.contains c
  | folded a, c => (foldOrbit c).any a.contains
  | latinFolded a, c => (latinForms c).any a.contains

/-- The set of one character. -/
def only (c : Char) : CharSet := range c c

/-- The characters of several sets. -/
def unionAll : List CharSet → CharSet
  | [] => none
  | [a] => a
  | a :: rest => union a (unionAll rest)

/-- The characters that are not listed. -/
def except (cs : List Char) : CharSet := complement (unionAll (cs.map only))

/-- The digits `0` to `9`. -/
def latinDigit : CharSet := range '0' '9'

/-- The white space among the first 128 characters. -/
def latinBlank : CharSet := union (range '\t' '\r') (only ' ')

/-- Latin letters, digits and the underscore. -/
def latinWord : CharSet := unionAll [range '0' '9', range 'A' 'Z', only '_', range 'a' 'z']

/-- The classes among the first 128 characters that have names. -/
def named : List (String × CharSet) := [
  ("alnum", unionAll [range '0' '9', range 'A' 'Z', range 'a' 'z']),
  ("alpha", union (range 'A' 'Z') (range 'a' 'z')),
  ("ascii", range '\x00' '\x7f'),
  ("blank", union (only '\t') (only ' ')),
  ("cntrl", union (range '\x00' '\x1f') (only '\x7f')),
  ("digit", latinDigit),
  ("graph", range '!' '~'),
  ("lower", range 'a' 'z'),
  ("print", range ' ' '~'),
  ("punct", unionAll [range '!' '/', range ':' '@', range '[' (Char.ofNat 96),
    range '\x7b' '~']),
  ("space", latinBlank),
  ("upper", range 'A' 'Z'),
  ("word", latinWord),
  ("xdigit", unionAll [range '0' '9', range 'A' 'F', range 'a' 'f'])]

/-- Whether no character from 128 to 255 is in the set. -/
def avoidsUpperBytes (a : CharSet) : Bool :=
  (List.range 128).all fun n => !a.contains (Char.ofNat (128 + n))

/-- A rough measure of the room a set takes, in bytes. -/
def room : CharSet → Nat
  | none => 32
  | range .. => 100
  | decimalDigit => 2500
  | blank => 500
  | wordChar => 20000
  | points ps => 100 + 30 * ps.length
  | union a b | intersection a b | difference a b | symmetricDifference a b => a.room + b.room
  | complement a | folded a | latinFolded a => 100 + a.room

end CharSet

end Almanac.Pattern
