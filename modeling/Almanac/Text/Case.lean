import Almanac.Text.Table.Lowercase
import Almanac.Text.Table.Folding
import Almanac.Text.Class

/-!
# Letter case

Letter case: lower-casing character by character, simple case folding, and
the comparison of names that looks at Latin letters only.
-/

namespace Almanac.Text

/-! ## Latin letters -/

/-- The lower-case form of a Latin capital; any other character is kept. -/
def asciiLower (c : Char) : Char :=
  if 'A' ≤ c && c ≤ 'Z' then Char.ofNat (c.toNat + 32) else c

/-- A text with its Latin capitals made small. -/
def lowerLatin (s : String) : String := String.ofList (s.toList.map asciiLower)

/-- Whether two texts are equal up to the case of Latin letters. -/
def equalLatin (a b : String) : Bool := lowerLatin a == lowerLatin b

/-! ## All letters -/

/-- The lower-case form of a character, which for one character, the dotted
capital I, is two characters long. -/
def lower (c : Char) : List Char :=
  if c.toNat < 128 then [asciiLower c]
  else if c.toNat = 0x130 then ['i', '\u0307']
  else [Char.ofNat (Shift.apply Table.lowercase c.toNat)]

/-- Whether two characters are one letter: equal, or equal when lower-cased. -/
def sameLetter (a b : Char) : Bool := a == b || lower a == lower b

/-- The simple case folding of a character. -/
def fold (c : Char) : Char :=
  if c.toNat < 128 then asciiLower c else Char.ofNat (Shift.apply Table.folding c.toNat)

/-- Whether two characters are equal ignoring case, by simple case folding. -/
def sameFold (a b : Char) : Bool := fold a == fold b

/-- The characters that fold to what `c` folds to. -/
def foldOrbit (c : Char) : List Char :=
  let f := fold c
  f :: ((Shift.sources Table.folding f.toNat).map Char.ofNat)

end Almanac.Text
