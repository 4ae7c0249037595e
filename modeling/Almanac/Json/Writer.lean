import Almanac.Json.Basic
import Almanac.Number.Digits

/-!
# Writing JSON

A string is written with a backslash before quotes and backslashes, and with
control characters escaped; all other characters stand for themselves. Values are
written on one line, with or without spaces behind commas and colons, or spread
over indented lines.
-/

namespace Almanac.Json

/-! ## Strings -/

/-- A hexadecimal digit below sixteen. -/
def hexDigit (d : Nat) : Char := Char.ofNat (if d < 10 then 48 + d else 87 + d)

/-- A character inside a string. -/
def escapeChar (c : Char) : List Char :=
  if c = '"' then ['\\', '"']
  else if c = '\\' then ['\\', '\\']
  else if c = '\n' then ['\\', 'n']
  else if c = '\r' then ['\\', 'r']
  else if c = '\t' then ['\\', 't']
  else if c = '\x08' then ['\\', 'b']
  else if c = '\x0c' then ['\\', 'f']
  else if c.toNat < 32 then
    ['\\', 'u', '0', '0', hexDigit (c.toNat / 16), hexDigit (c.toNat % 16)]
  else [c]

/-- A string in quotes. -/
def quote (s : List Char) : List Char := '"' :: s.flatMap escapeChar ++ ['"']

/-! ## Values on one line -/

/-- What stands behind an item and behind a key. -/
structure Spacing where
  comma : List Char
  colon : List Char

/-- No spaces. -/
def compactSpacing : Spacing := ⟨[','], [':']⟩

/-- A space behind every comma and colon. -/
def storedSpacing : Spacing := ⟨[',', ' '], [':', ' ']⟩

mutual

/-- A value on one line. -/
def write (spacing : Spacing) : Json → List Char
  | null | unreadable => "null".toList
  | bool true => "true".toList
  | bool false => "false".toList
  | number text => text.toList
  | string text => quote text.toList
  | array items => '[' :: writeItems spacing items ++ [']']
  | object members => '\x7b' :: writeMembers spacing members ++ ['\x7d']

/-- Items with commas between them. -/
def writeItems (spacing : Spacing) : List Json → List Char
  | [] => []
  | [item] => item.write spacing
  | item :: next :: rest =>
    item.write spacing ++ spacing.comma ++ writeItems spacing (next :: rest)

/-- Members with commas between them. -/
def writeMembers (spacing : Spacing) : List (String × Json) → List Char
  | [] => []
  | [(key, value)] => quote key.toList ++ spacing.colon ++ value.write spacing
  | (key, value) :: next :: rest =>
    quote key.toList ++ spacing.colon ++ value.write spacing ++ spacing.comma ++
      writeMembers spacing (next :: rest)

end

/-- A value without spaces. -/
def compactText (value : Json) : String := String.ofList (value.write compactSpacing)

/-- A value with a space behind every comma and colon. -/
def storedText (value : Json) : String := String.ofList (value.write storedSpacing)

/-! ## Values on many lines -/

/-- A line end and the indentation of a level, two spaces for each. -/
def newline (level : Nat) : List Char := '\n' :: List.replicate (2 * level) ' '

mutual

/-- A value with each item and member on a line of its own. -/
def writeIndented (level : Nat) : Json → List Char
  | null | unreadable => "null".toList
  | bool true => "true".toList
  | bool false => "false".toList
  | number text => text.toList
  | string text => quote text.toList
  | array [] => ['[', ']']
  | array (item :: rest) =>
    '[' :: newline (level + 1) ++ item.writeIndented (level + 1) ++
      writeItemsIndented (level + 1) rest ++ newline level ++ [']']
  | object [] => ['\x7b', '\x7d']
  | object ((key, value) :: rest) =>
    '\x7b' :: newline (level + 1) ++ quote key.toList ++ [':', ' '] ++
      value.writeIndented (level + 1) ++ writeMembersIndented (level + 1) rest ++
      newline level ++ ['\x7d']

/-- The items behind the first. -/
def writeItemsIndented (level : Nat) : List Json → List Char
  | [] => []
  | item :: rest =>
    ',' :: newline level ++ item.writeIndented level ++ writeItemsIndented level rest

/-- The members behind the first. -/
def writeMembersIndented (level : Nat) : List (String × Json) → List Char
  | [] => []
  | (key, value) :: rest =>
    ',' :: newline level ++ quote key.toList ++ [':', ' '] ++ value.writeIndented level ++
      writeMembersIndented level rest

end

/-- A value with each item and member on a line of its own. -/
def indentedText (value : Json) : String := String.ofList (value.writeIndented 0)

end Almanac.Json
