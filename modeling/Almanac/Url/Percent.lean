import Almanac.Text.Class
import Almanac.Text.Utf8

/-!
# Percent signs in addresses

Characters that may not stand in a part of an address are written as their bytes, each
a percent sign and two hexadecimal digits.
-/

namespace Almanac.Url

open Almanac.Text

/-- A hexadecimal digit below sixteen, a capital letter from ten on. -/
def capitalHexDigit (d : Nat) : Char := Char.ofNat (if d < 10 then 48 + d else 55 + d)

/-- A byte as a percent sign and two digits. -/
def percentByte (b : UInt8) : List Char :=
  ['%', capitalHexDigit (b.toNat / 16), capitalHexDigit (b.toNat % 16)]

/-- Control characters and all characters behind the first 128, which are always
written as bytes. -/
def isControl (c : Char) : Bool := c.toNat < 32 || c.toNat ≥ 127

/-- The characters with those written as bytes that are control characters or in the
list. -/
def percentEncode (special : List Char) (cs : List Char) : List Char :=
  cs.flatMap fun c =>
    if isControl c || special.contains c then (Utf8.encodeChar c).flatMap percentByte else [c]

/-- The special characters of a fragment. -/
def fragmentSpecial : List Char := [' ', '"', '<', '>', Char.ofNat 96]

/-- The special characters of a path. -/
def pathSpecial : List Char := fragmentSpecial ++ ['#', '?', '\x7b', '\x7d']

/-- The special characters of a user name and a password. -/
def userSpecial : List Char := pathSpecial ++ "/:;=@[\\]^|".toList

/-- The special characters of a query. -/
def querySpecial : List Char := [' ', '"', '#', '<', '>']

/-- The value of a hexadecimal digit. -/
def hexValue? (c : Char) : Option Nat :=
  if isAsciiDigit c then some (c.toNat - 48)
  else if 'a' ≤ c && c ≤ 'f' then some (c.toNat - 87)
  else if 'A' ≤ c && c ≤ 'F' then some (c.toNat - 55)
  else none

/-- The bytes of characters, with those written by percent signs read. -/
def percentDecode : List Char → List UInt8
  | '%' :: a :: b :: rest =>
    match hexValue? a, hexValue? b with
    | some x, some y => (x * 16 + y).toUInt8 :: percentDecode rest
    | _, _ => Utf8.encodeChar '%' ++ percentDecode (a :: b :: rest)
  | c :: rest => Utf8.encodeChar c ++ percentDecode rest
  | [] => []

end Almanac.Url
