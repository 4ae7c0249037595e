import Almanac.Text.Table.Alphabetic
import Almanac.Text.Table.Number
import Almanac.Text.Table.Mark

/-!
# Character classes

The character classes the library reads text by: white space, letters,
numbers, decimal digits and word characters, all over the whole of Unicode.
-/

namespace Almanac.Text

/-- White space: the code points with the Unicode property White_Space. -/
def isBlank (c : Char) : Bool :=
  let n := c.toNat
  (9 ≤ n && n ≤ 13) || n == 32 || n == 0x85 || n == 0xa0 || n == 0x1680 ||
    (0x2000 ≤ n && n ≤ 0x200a) || n == 0x2028 || n == 0x2029 || n == 0x202f || n == 0x205f ||
    n == 0x3000

/-- A letter of the Latin alphabet. -/
def isAsciiLetter (c : Char) : Bool := ('a' ≤ c && c ≤ 'z') || ('A' ≤ c && c ≤ 'Z')

/-- One of the ten digits `0` to `9`. -/
def isAsciiDigit (c : Char) : Bool := '0' ≤ c && c ≤ '9'

/-- The value of a digit `0` to `9`. -/
def asciiDigitValue (c : Char) : Nat := c.toNat - '0'.toNat

/-- A character with the property Alphabetic. -/
def isAlphabetic (c : Char) : Bool :=
  if c.toNat < 128 then isAsciiLetter c else Table.alphabetic.contains c.toNat

/-- A character of one of the number categories. -/
def isNumeric (c : Char) : Bool :=
  if c.toNat < 128 then isAsciiDigit c else Table.number.contains c.toNat

/-- A letter or a number. -/
def isAlphanumeric (c : Char) : Bool := isAlphabetic c || isNumeric c

/-- A decimal digit of any script. -/
def isDecimalDigit (c : Char) : Bool :=
  if c.toNat < 128 then isAsciiDigit c else Table.decimalDigit.contains c.toNat

/-- A word character: a letter, a mark, a decimal digit, connector punctuation
or one of the two joiners. -/
def isWordChar (c : Char) : Bool :=
  if c.toNat < 128 then isAsciiLetter c || isAsciiDigit c || c == '_'
  else Table.alphabetic.contains c.toNat || Table.mark.contains c.toNat ||
    Table.decimalDigit.contains c.toNat || Table.connector.contains c.toNat ||
    c.toNat == 0x200c || c.toNat == 0x200d

end Almanac.Text
