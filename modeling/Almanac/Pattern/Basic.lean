import Almanac.Pattern.CharSet

/-!
# Patterns

A pattern describes pieces of text: characters of a set, places between
characters, one pattern after another, a choice in order of preference,
repetition and numbered groups.
-/

namespace Almanac.Pattern

open Almanac.Text

/-- How a place lies to the words around it. -/
inductive WordEdge where
  /-- Between a word character and something else. -/
  | boundary
  /-- Not at a boundary. -/
  | interior
  | start
  | finish
  /-- Not behind a word character. -/
  | halfStart
  /-- Not in front of a word character. -/
  | halfFinish
  deriving Repr, DecidableEq, Inhabited

/-- A condition on a place between two characters. -/
inductive Place where
  | textStart
  | textEnd
  /-- The start of a line; `returns` says that a carriage return ends lines too. -/
  | lineStart (returns : Bool)
  | lineEnd (returns : Bool)
  /-- A place in relation to words; `latin` says that only Latin letters, digits
  and the underscore make words. -/
  | word (edge : WordEdge) (latin : Bool)
  deriving Repr, DecidableEq, Inhabited

namespace Place

/-- Whether a character is there and belongs to a word. -/
def isWord (latin : Bool) (c : Option Char) : Bool :=
  c.any fun c => if latin then CharSet.latinWord.contains c else isWordChar c

/-- Whether the condition holds between two characters, each of which is missing
at an end of the text. -/
def holds (place : Place) (before after : Option Char) : Bool :=
  match place with
  | textStart => before.isNone
  | textEnd => after.isNone
  | lineStart false => before.isNone || before == some '\n'
  | lineEnd false => after.isNone || after == some '\n'
  | lineStart true =>
    before.isNone || before == some '\n' || (before == some '\r' && after != some '\n')
  | lineEnd true =>
    after.isNone || after == some '\r' || (after == some '\n' && before != some '\r')
  | word edge latin =>
    let inWord := isWord latin
    match edge with
    | .boundary => inWord before != inWord after
    | .interior => inWord before == inWord after
    | .start => !inWord before && inWord after
    | .finish => inWord before && !inWord after
    | .halfStart => !inWord before
    | .halfFinish => !inWord after

end Place

end Pattern

/-- A description of pieces of text. -/
inductive Pattern where
  | empty
  /-- One character of a set. -/
  | read (set : Pattern.CharSet)
  /-- No character, at such a place. -/
  | place (place : Pattern.Place)
  | sequence (a b : Pattern)
  /-- The first pattern by preference, else the second. -/
  | either (a b : Pattern)
  /-- A number of pieces, as many as possible by preference if `greedy`, else as
  few as possible. -/
  | repetition (a : Pattern) (least : Nat) (most : Option Nat) (greedy : Bool)
  /-- A piece that is remembered under a number. -/
  | group (number : Nat) (a : Pattern)
  deriving Repr, DecidableEq, Inhabited

namespace Pattern

/-- Whether no character is ever read. -/
def readsNothing : Pattern → Bool
  | empty | place _ => true
  | read _ => false
  | sequence a b | either a b => a.readsNothing && b.readsNothing
  | repetition a _ most _ => most == some 0 || a.readsNothing
  | group _ a => a.readsNothing

/-- Whether a character is read in any case. -/
def alwaysReads : Pattern → Bool
  | empty | place _ => false
  | read _ => true
  | sequence a b => a.alwaysReads || b.alwaysReads
  | either a b => a.alwaysReads && b.alwaysReads
  | repetition a least _ _ => least != 0 && a.alwaysReads
  | group _ a => a.alwaysReads

/-- A pattern a number of times. What reads nothing need not be repeated, and what
is repeated no times is empty. -/
def times (a : Pattern) (least : Nat) (most : Option Nat) (greedy : Bool) : Pattern :=
  let (least, most) :=
    if a.readsNothing then (min least 1, some ((most.map (min · 1)).getD 1)) else (least, most)
  if most = some 0 then empty
  else if least = 1 && most = some 1 then a
  else repetition a least most greedy

/-- A rough measure of the room a pattern takes, in bytes. -/
def room : Pattern → Nat
  | empty => 32
  | read set => set.room
  | place _ => 32
  | sequence a b => a.room + b.room
  | either a b => 48 + a.room + b.room
  | repetition a least most _ =>
    match most with
    | none => (max least 1) * a.room + 48
    | some most => most * (a.room + 48)
  | group _ a => 64 + a.room

end Pattern

end Almanac
