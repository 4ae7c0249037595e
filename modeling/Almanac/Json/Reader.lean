import Almanac.Remainder
import Almanac.Json.Basic
import Almanac.Number.Decimal

/-!
# Reading JSON

Text is read strictly: no comments, no trailing commas, no control characters in
strings, no leading zeros, and only white space behind the value. Each reader
returns what it read and the characters left.
-/

namespace Almanac.Json

open Almanac.Text

/-! ## White space -/

/-- The white space of JSON. -/
def isSpace (c : Char) : Bool := c == ' ' || c == '\n' || c == '\t' || c == '\r'

/-- The first character that is not white space. -/
def next? : (cs : List Char) → Read Char cs
  | [] => none
  | c :: rest =>
    if isSpace c then do
      let (d, after) ← next? rest
      return (d, after.cons)
    else some (c, .tail)

/-! ## Strings -/

/-- The number that four hexadecimal digits stand for. -/
def hexUnit? (a b c d : Char) : Option Nat := do
  let a ← digit? a
  let b ← digit? b
  let c ← digit? c
  let d ← digit? d
  return ((a * 16 + b) * 16 + c) * 16 + d
where
  digit? (c : Char) : Option Nat :=
    if isAsciiDigit c then some (c.toNat - 48)
    else if 'a' ≤ c && c ≤ 'f' then some (c.toNat - 87)
    else if 'A' ≤ c && c ≤ 'F' then some (c.toNat - 55)
    else none

/-- The character that a backslash and a letter stand for. -/
def simpleEscape? (c : Char) : Option Char :=
  [('"', '"'), ('\\', '\\'), ('/', '/'), ('b', '\x08'), ('f', '\x0c'), ('n', '\n'), ('r', '\r'),
    ('t', '\t')].lookup c

/-- The first half of a surrogate pair. -/
def isHighSurrogate (n : Nat) : Bool := 0xd800 ≤ n && n ≤ 0xdbff

/-- The second half of a surrogate pair. -/
def isLowSurrogate (n : Nat) : Bool := 0xdc00 ≤ n && n ≤ 0xdfff

/-- The character of a surrogate pair. -/
def pairChar (high low : Nat) : Char :=
  Char.ofNat (0x10000 + (high - 0xd800) * 0x400 + (low - 0xdc00))

/-- Puts a character before text, if there is a text. -/
def consText (c : Char) (text : Option (List Char)) : Option (List Char) := text.map (c :: ·)

/-- The characters of a string up to its closing quote. The text is missing when
half a surrogate pair stands in it. -/
def readChars (cs : List Char) : Read (Option (List Char)) cs :=
  match cs with
  | [] => none
  | '"' :: _ => some (some [], .tail)
  | '\\' :: 'u' :: a :: b :: c :: d :: rest =>
    match hexUnit? a b c d with
    | none => none
    | some unit =>
      if isHighSurrogate unit then
        match rest with
        | '\\' :: 'u' :: e :: f :: g :: h :: more =>
          match hexUnit? e f g h with
          | none => none
          | some low => do
            let (text, after) ← readChars more
            let after := after.cons.cons.cons.cons.cons.cons
            return (if isLowSurrogate low then consText (pairChar unit low) text else none,
              after.cons.cons.cons.cons.cons.cons)
        | rest => do
          let (_, after) ← readChars rest
          return (none, after.cons.cons.cons.cons.cons.cons)
      else do
        let (text, after) ← readChars rest
        return (if isLowSurrogate unit then none else consText (Char.ofNat unit) text,
          after.cons.cons.cons.cons.cons.cons)
  | '\\' :: c :: rest =>
    match simpleEscape? c with
    | none => none
    | some c => do
      let (text, after) ← readChars rest
      return (consText c text, after.cons.cons)
  | c :: rest =>
    if c.toNat < 32 || c = '\\' then none
    else do
      let (text, after) ← readChars rest
      return (consText c text, after.cons)

/-! ## Numbers -/

/-- Digits at the front of the characters, at least one. -/
def readDigits : (cs : List Char) → Read (List Char) cs
  | [] => none
  | c :: rest =>
    if isAsciiDigit c then
      some (c :: rest.takeWhile isAsciiDigit, (NoLonger.dropWhile isAsciiDigit rest).cons)
    else none

/-- The digits before the point: a zero, or digits that begin with another. -/
def readWhole (cs : List Char) : Read (List Char) cs :=
  match cs with
  | '0' :: _ => some (['0'], .tail)
  | cs => readDigits cs

/-- A fraction, if a point is there. -/
def readFraction (cs : List Char) : ReadMaybe (List Char) cs :=
  match cs with
  | '.' :: rest => do
    let (digits, after) ← readDigits rest
    return (digits, after.cons.toNoLonger)
  | cs => some ([], .all cs)

/-- The digits of an exponent behind its sign, if it has one. -/
def readPower (cs : List Char) : Read Int cs :=
  match cs with
  | '-' :: rest => do
    let (digits, after) ← readDigits rest
    return (-(Number.value digits : Int), after.cons)
  | '+' :: rest => do
    let (digits, after) ← readDigits rest
    return ((Number.value digits : Int), after.cons)
  | cs => do
    let (digits, after) ← readDigits cs
    return ((Number.value digits : Int), after)

/-- An exponent, if a letter e is there. -/
def readExponent (cs : List Char) : ReadMaybe Int cs :=
  match cs with
  | [] => some (0, .all [])
  | e :: rest =>
    if e = 'e' || e = 'E' then do
      let (power, after) ← readPower rest
      return (power, after.cons.toNoLonger)
    else some (0, .all (e :: rest))

/-- Whether a decimal lies within the range of numbers. -/
def inRange (digits fraction : List Char) (exponent : Int) : Bool :=
  match Number.ofScientific false (Number.value (digits ++ fraction))
      (exponent - fraction.length) with
  | .infinite _ => false
  | _ => true

/-- A number without its sign; one beyond the range of numbers is unreadable. -/
def readUnsigned (cs : List Char) : Read Json cs := do
  let (whole, rest₁) ← readWhole cs
  let (fraction, rest₂) ← readFraction rest₁.list
  let (exponent, rest₃) ← readExponent rest₂.list
  let text := String.ofList (cs.take (cs.length - rest₃.list.length))
  return (if inRange whole fraction exponent then .number text else .unreadable,
    rest₁.trans (rest₂.trans rest₃))

/-! ## Values -/

/-- The object with these members, which is unreadable when a key is. -/
def ofMembers (members : List (Option (List Char) × Json)) : Json :=
  if members.all (·.1.isSome) then
    .object (members.map fun (key, value) => (String.ofList (key.getD []), value))
  else .unreadable

/-- The string with a text, which is unreadable when the text is missing. -/
def ofString? (text : Option (List Char)) : Json :=
  match text with
  | some text => .string (String.ofList text)
  | none => .unreadable

/-- A number with a minus sign before it. -/
def negated : Json → Json
  | .number text => .number ("-" ++ text)
  | value => value

mutual

/-- A value at the front of the characters, white space before it skipped. -/
def readValue (cs : List Char) : Read Json cs := do
  let (c, rest) ← next? cs
  match c with
  | '"' =>
    let (text, after) ← readChars rest.list
    return (ofString? text, rest.trans after)
  | '[' =>
    let (items, after) ← readItems rest.list
    return (.array items, rest.trans after)
  | '\x7b' =>
    let (members, after) ← readMembers rest.list
    return (ofMembers members, rest.trans after)
  | '-' =>
    let (value, after) ← readUnsigned rest.list
    return (negated value, rest.trans after)
  | 'n' =>
    let ((), after) ← readThese "ull".toList rest.list
    return (.null, rest.trans after)
  | 't' =>
    let ((), after) ← readThese "rue".toList rest.list
    return (.bool true, rest.trans after)
  | 'f' =>
    let ((), after) ← readThese "alse".toList rest.list
    return (.bool false, rest.trans after)
  | c =>
    let front := rest.putBack c
    let (value, after) ← readUnsigned front.list
    return (value, front.transShorter after)
termination_by (cs.length, 0)
decreasing_by all_goals grind

/-- The items of an array whose bracket has been read, up to its closing one. -/
def readItems (cs : List Char) : Read (List Json) cs :=
  match next? cs with
  | some (']', rest) => some ([], rest)
  | _ => do
    let (first, rest) ← readValue cs
    let (more, after) ← readMoreItems rest.list
    return (first :: more, rest.trans after)
termination_by (cs.length, 1)
decreasing_by all_goals grind

/-- The items behind one that has been read. -/
def readMoreItems (cs : List Char) : Read (List Json) cs :=
  match next? cs with
  | some (']', rest) => some ([], rest)
  | some (',', rest) => do
    let (next, rest') ← readValue rest.list
    let (more, after) ← readMoreItems rest'.list
    return (next :: more, rest.trans (rest'.trans after))
  | _ => none
termination_by (cs.length, 0)
decreasing_by all_goals grind

/-- A key, a colon and a value, with white space before the key skipped. -/
def readMember (cs : List Char) : Read (Option (List Char) × Json) cs :=
  match next? cs with
  | some ('"', rest) => do
    let (key, behind) ← readChars rest.list
    match next? behind.list with
    | some (':', rest') =>
      let (value, after) ← readValue rest'.list
      return ((key, value), rest.trans (behind.trans (rest'.trans after)))
    | _ => none
  | _ => none
termination_by (cs.length, 1)
decreasing_by all_goals grind

/-- The members of an object whose brace has been read, up to its closing one. -/
def readMembers (cs : List Char) : Read (List (Option (List Char) × Json)) cs :=
  match next? cs with
  | some ('\x7d', rest) => some ([], rest)
  | _ => do
    let (first, rest) ← readMember cs
    let (more, after) ← readMoreMembers rest.list
    return (first :: more, rest.trans after)
termination_by (cs.length, 2)
decreasing_by all_goals grind

/-- The members behind one that has been read. -/
def readMoreMembers (cs : List Char) : Read (List (Option (List Char) × Json)) cs :=
  match next? cs with
  | some ('\x7d', rest) => some ([], rest)
  | some (',', rest) => do
    let (next, rest') ← readMember rest.list
    let (more, after) ← readMoreMembers rest'.list
    return (next :: more, rest.trans (rest'.trans after))
  | _ => none
termination_by (cs.length, 0)
decreasing_by all_goals grind

end

/-- The value that a whole text stands for. -/
def read? (text : String) : Option Json := do
  let (value, rest) ← readValue text.toList
  if (next? rest.list).isNone then return value else none

end Almanac.Json
