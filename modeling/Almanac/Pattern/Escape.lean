import Almanac.Remainder
import Almanac.Number.Digits
import Almanac.Text.Blank
import Almanac.Pattern.Basic
import Almanac.Pattern.Property

/-!
# Escapes in patterns

What a backslash and the characters behind it stand for: a character, a class of
characters or a place. Readers return what they read and the characters left.
-/

namespace Almanac.Pattern

open Almanac.Text

/-- How pattern text is read. -/
structure Flags where
  ignoreCase : Bool := false
  /-- Line starts and ends count as well as those of the text. -/
  lines : Bool := false
  /-- A dot reads line ends too. -/
  dotReadsAll : Bool := false
  /-- A repetition is greedy when it is marked as not greedy. -/
  swapGreed : Bool := false
  /-- Classes and words are those of all scripts. -/
  unicode : Bool := true
  /-- A carriage return ends lines too. -/
  returns : Bool := false
  /-- White space and comments are skipped. -/
  spaced : Bool := false
  deriving Repr, DecidableEq, Inhabited

/-! ## White space and comments -/

/-- What is left behind white space and comments, which run to the end of a line. -/
def skipSpaced (inComment : Bool) : (cs : List Char) → NoLonger cs
  | [] => .all []
  | c :: rest =>
    if inComment then (skipSpaced (c != '\n') rest).cons.toNoLonger
    else if isBlank c || c == '#' then (skipSpaced (c == '#') rest).cons.toNoLonger
    else .all (c :: rest)

/-- What is left behind what is skipped under the flags. -/
def Flags.skip (flags : Flags) (cs : List Char) : NoLonger cs :=
  if flags.spaced then skipSpaced false cs else .all cs

/-- The first character that is not skipped under the flags. -/
def Flags.next? (flags : Flags) (cs : List Char) : Read Char cs := do
  let front := flags.skip cs
  let (c, rest) ← readOne front.list
  return (c, front.transShorter rest)

/-- The set with case ignored, if it is. -/
def Flags.foldCase (flags : Flags) (set : CharSet) : CharSet :=
  if !flags.ignoreCase then set else if flags.unicode then .folded set else .latinFolded set

/-! ## Atoms -/

/-- What an escape stands for. -/
inductive Atom where
  /-- A character; `byte` says that it was given by two hexadecimal digits. -/
  | char (c : Char) (byte : Bool)
  | set (set : CharSet)
  | place (place : Place)
  deriving Repr, Inhabited

/-- The value of a hexadecimal digit. -/
def hexDigit? (c : Char) : Option Nat :=
  if isAsciiDigit c then some (c.toNat - 48)
  else if 'a' ≤ c && c ≤ 'f' then some (c.toNat - 87)
  else if 'A' ≤ c && c ≤ 'F' then some (c.toNat - 55)
  else none

/-- The character with a code point. -/
def charOf? (n : Nat) : Option Char := if n.isValidChar then some (Char.ofNat n) else none

/-- A number of hexadecimal digits, with what is skipped behind each. -/
def readHexDigits (flags : Flags) : (count : Nat) → (value : Nat) → (cs : List Char) →
    ReadMaybe Nat cs
  | 0, value, cs => some (value, .all cs)
  | _ + 1, _, [] => none
  | count + 1, value, c :: rest => do
    let digit ← hexDigit? c
    let front := flags.skip rest
    let (value, after) ← readHexDigits flags count (value * 16 + digit) front.list
    return (value, (front.trans after).cons.toNoLonger)

/-- Hexadecimal digits up to a closing brace, at least one. -/
def readHexBraces (flags : Flags) (value : Option Nat) (cs : List Char) : Read Nat cs := do
  let (c, rest) ← flags.next? cs
  if c = '\x7d' then
    let value ← value
    return (value, rest)
  else
    let digit ← hexDigit? c
    let (value, after) ← readHexBraces flags (some (value.getD 0 * 16 + digit)) rest.list
    return (value, rest.trans after)
termination_by cs.length
decreasing_by grind

/-- A character by its code point: in braces, or by a fixed number of digits. -/
def readHex (flags : Flags) (count : Nat) (cs : List Char) : Read Atom cs := do
  let (c, rest) ← flags.next? cs
  if c = '\x7b' then
    let (value, after) ← readHexBraces flags none rest.list
    let c ← charOf? value
    return (.char c false, rest.trans (after.trans (flags.skip after.list)))
  else
    let digit ← hexDigit? c
    let front := flags.skip rest.list
    let (value, after) ← readHexDigits flags (count - 1) digit front.list
    let c ← charOf? value
    return (.char c (count == 2), rest.trans (front.trans after))

/-- The places that a name in braces behind a word boundary stands for. -/
def namedEdge? : List Char → Option WordEdge
  | ['s', 't', 'a', 'r', 't'] => some .start
  | ['e', 'n', 'd'] => some .finish
  | ['s', 't', 'a', 'r', 't', '-', 'h', 'a', 'l', 'f'] => some .halfStart
  | ['e', 'n', 'd', '-', 'h', 'a', 'l', 'f'] => some .halfFinish
  | _ => none

/-- A character in the name of a word boundary. -/
def isEdgeNameChar (c : Char) : Bool := isAsciiLetter c || c == '-'

/-- The name of a word boundary up to its closing brace. -/
def readEdgeName (flags : Flags) (name : List Char) (cs : List Char) : Read (List Char) cs := do
  let (c, rest) ← readOne cs
  if isEdgeNameChar c then
    let front := flags.skip rest.list
    let (name, after) ← readEdgeName flags (name ++ [c]) front.list
    return (name, rest.trans (front.trans after))
  else if c = '\x7d' then return (name, rest)
  else none
termination_by cs.length
decreasing_by grind

/-- What a word boundary is behind its letter: one with a name in braces, or a plain
one. Braces that begin with something else are left for a repetition. -/
def readBoundary (flags : Flags) (cs : List Char) : ReadMaybe Atom cs :=
  let edge (edge : WordEdge) : Atom := .place (.word edge (!flags.unicode))
  match readThis '\x7b' cs with
  | none => some (edge .boundary, .all cs)
  | some ((), rest) => do
    let front := flags.skip rest.list
    let (c, _) ← readOne front.list
    if isEdgeNameChar c then
      let (name, after) ← readEdgeName flags [] front.list
      let named ← namedEdge? name
      return (edge named, (rest.trans (front.trans after)).toNoLonger)
    else return (edge .boundary, .all cs)

/-- A class and, for the capital letter, its complement, which without Unicode would
hold more than characters. -/
def classAtom (flags : Flags) (negated : Bool) (all latin : CharSet) : Option Atom :=
  if flags.unicode then some (.set (if negated then .complement all else all))
  else if negated then none
  else some (.set latin)

/-- Punctuation with a meaning in patterns. -/
def isMeta (c : Char) : Bool := "\\.+*?()|[]\x7b\x7d^$#&-~".contains c

/-- Whether a backslash before the character means the character. -/
def isEscapable (c : Char) : Bool :=
  isMeta c ||
    (c.toNat < 128 && !isAsciiLetter c && !isAsciiDigit c && c != '<' && c != '>')

/-- What one character behind a backslash stands for. -/
def simpleEscape? (flags : Flags) (c : Char) : Option Atom :=
  if isEscapable c then some (.char c false)
  else
    let latin := !flags.unicode
    match c with
    | 'd' => classAtom flags false .decimalDigit .latinDigit
    | 'D' => classAtom flags true .decimalDigit .latinDigit
    | 's' => classAtom flags false .blank .latinBlank
    | 'S' => classAtom flags true .blank .latinBlank
    | 'w' => classAtom flags false .wordChar .latinWord
    | 'W' => classAtom flags true .wordChar .latinWord
    | 'a' => some (.char '\x07' false)
    | 'f' => some (.char '\x0c' false)
    | 't' => some (.char '\t' false)
    | 'n' => some (.char '\n' false)
    | 'r' => some (.char '\r' false)
    | 'v' => some (.char '\x0b' false)
    | 'A' => some (.place .textStart)
    | 'z' => some (.place .textEnd)
    | 'B' => some (.place (.word .interior latin))
    | '<' => some (.place (.word .start latin))
    | '>' => some (.place (.word .finish latin))
    | _ => none

/-- The text in the braces of a property, up to the closing one. -/
def readPropertyText (flags : Flags) (cs : List Char) : Read (List Char) cs := do
  let (c, rest) ← flags.next? cs
  if c = '\x7d' then return ([], rest)
  else
    let (text, after) ← readPropertyText flags rest.list
    return (c :: text, rest.trans after)
termination_by cs.length
decreasing_by grind

/-- The characters with a property, or those without, which is named by one letter or in
braces. -/
def readProperty (flags : Flags) (negated : Bool) (cs : List Char) : Read Atom cs := do
  guard flags.unicode
  let (c, rest) ← flags.next? cs
  let atom (set : CharSet) : Atom :=
    .set (if negated then .complement (flags.foldCase set) else flags.foldCase set)
  if c = '\x7b' then
    let (text, after) ← readPropertyText flags rest.list
    let set ← CharSet.ofProperty? text
    return (atom set, rest.trans after)
  else
    guard (c ≠ '\\')
    let set ← CharSet.ofName? [c]
    return (atom set, rest)

/-- How many digits a code point has behind its letter. -/
def hexCount? : Char → Option Nat
  | 'x' => some 2
  | 'u' => some 4
  | 'U' => some 8
  | _ => none

/-- What the characters behind a backslash stand for. -/
def readEscape (flags : Flags) (cs : List Char) : Read Atom cs := do
  let (c, rest) ← readOne cs
  match hexCount? c with
  | some count =>
    let (atom, after) ← readHex flags count rest.list
    return (atom, rest.trans after)
  | none =>
    if c = 'b' then
      let (atom, after) ← readBoundary flags rest.list
      return (atom, rest.trans after)
    else if c = 'p' || c = 'P' then
      let (atom, after) ← readProperty flags (c == 'P') rest.list
      return (atom, rest.trans after)
    else
      let atom ← simpleEscape? flags c
      return (atom, rest)

end Almanac.Pattern
