import Almanac.Html.Table.EntitiesCapitalAToL
import Almanac.Html.Table.EntitiesCapitalMToZ
import Almanac.Html.Table.EntitiesSmallAToE
import Almanac.Html.Table.EntitiesSmallFToM
import Almanac.Html.Table.EntitiesSmallNToR
import Almanac.Html.Table.EntitiesSmallSToZ
import Almanac.Number.Digits
import Almanac.Text.Blank

/-!
# Character references

Characters that a page writes by name or by number after an ampersand. The
longest name counts; a name without its semicolon stands for nothing inside an
attribute when a letter, a digit or an equals sign follows it. A number that is
no character stands for the replacement character.
-/

namespace Almanac.Html

open Almanac.Text

/-- The character that stands for what cannot be read. -/
def replacement : Char := '\ufffd'

/-! ## Numbers -/

/-- The characters that the numbers from 128 to 159 stand for, where these are
not the numbers of control characters. -/
def controlReplacements : List (Nat × Nat) := [
  (0x80, 0x20ac), (0x82, 0x201a), (0x83, 0x192), (0x84, 0x201e), (0x85, 0x2026), (0x86, 0x2020),
  (0x87, 0x2021), (0x88, 0x2c6), (0x89, 0x2030), (0x8a, 0x160), (0x8b, 0x2039), (0x8c, 0x152),
  (0x8e, 0x17d), (0x91, 0x2018), (0x92, 0x2019), (0x93, 0x201c), (0x94, 0x201d), (0x95, 0x2022),
  (0x96, 0x2013), (0x97, 0x2014), (0x98, 0x2dc), (0x99, 0x2122), (0x9a, 0x161), (0x9b, 0x203a),
  (0x9c, 0x153), (0x9e, 0x17e), (0x9f, 0x178)]

/-- The character that a number stands for. -/
def charOfNumber (n : Nat) : Char :=
  if n = 0 || n > 0x10ffff || (0xd800 ≤ n && n ≤ 0xdfff) then replacement
  else Char.ofNat ((controlReplacements.lookup n).getD n)

/-- A hexadecimal digit. -/
def isHexDigit (c : Char) : Bool :=
  isAsciiDigit c || ('a' ≤ c && c ≤ 'f') || ('A' ≤ c && c ≤ 'F')

/-- The value of a hexadecimal digit. -/
def hexDigitValue (c : Char) : Nat :=
  if isAsciiDigit c then asciiDigitValue c
  else if 'a' ≤ c && c ≤ 'f' then c.toNat - 'a'.toNat + 10
  else c.toNat - 'A'.toNat + 10

/-- The number that hexadecimal digits stand for. -/
def hexValue (cs : List Char) : Nat := cs.foldl (fun acc c => acc * 16 + hexDigitValue c) 0

/-- The characters without a semicolon at their front. -/
def dropSemicolon : List Char → List Char
  | ';' :: rest => rest
  | rest => rest

/-! ## Names -/

/-- Every named character. -/
def namedCharacters : List (List (String × List Nat)) :=
  [Table.capitalAToL, Table.capitalMToZ, Table.smallAToE, Table.smallFToM, Table.smallNToR,
    Table.smallSToZ]

/-- The longest name at the front of the characters, with what it stands for. -/
def longestName? (cs : List Char) : Option (List Char × List Nat) :=
  namedCharacters.foldl (fun best table =>
    table.foldl (fun best (name, codes) =>
      let chars := name.toList
      if chars.isPrefixOf cs && best.all (fun b => b.1.length < chars.length)
      then some (chars, codes) else best) best) none

/-- A letter or digit that names are made of. -/
def isNameLetter (c : Char) : Bool := isAsciiLetter c || isAsciiDigit c

/-! ## References -/

/-- The characters that the text behind an ampersand stands for together with it,
and the text that is left; the ampersand itself when the text is no reference. -/
def takeReference (inAttribute : Bool) (cs : List Char) : List Char × List Char :=
  match cs with
  | '#' :: x :: rest =>
    if (x = 'x' || x = 'X') && (rest.head?.map isHexDigit).getD false then
      ([charOfNumber (hexValue (rest.takeWhile isHexDigit))],
        dropSemicolon (rest.dropWhile isHexDigit))
    else if isAsciiDigit x then
      ([charOfNumber (Number.value ((x :: rest).takeWhile isAsciiDigit))],
        dropSemicolon ((x :: rest).dropWhile isAsciiDigit))
    else (['&'], cs)
  | c :: _ =>
    if isNameLetter c then
      match longestName? cs with
      | none => (['&'], cs)
      | some (name, codes) =>
        let after := cs.drop name.length
        let goesOn := (after.head?.map fun d => d == '=' || isNameLetter d).getD false
        if inAttribute && name.getLast? != some ';' && goesOn then (['&'], cs)
        else (codes.map Char.ofNat, after)
    else (['&'], cs)
  | [] => (['&'], cs)

theorem length_dropSemicolon_le (cs : List Char) : (dropSemicolon cs).length ≤ cs.length := by
  unfold dropSemicolon
  split <;> simp

/-- A reference leaves no more text than there was. -/
theorem length_takeReference_le (inAttribute : Bool) (cs : List Char) :
    (takeReference inAttribute cs).2.length ≤ cs.length := by
  unfold takeReference
  split
  · next x rest =>
    split
    · have h1 := length_dropSemicolon_le (rest.dropWhile isHexDigit)
      have h2 := length_dropWhile_le isHexDigit rest
      simp only [List.length_cons]
      omega
    · split
      · have h1 := length_dropSemicolon_le ((x :: rest).dropWhile isAsciiDigit)
        have h2 := length_dropWhile_le isAsciiDigit (x :: rest)
        simp only [List.length_cons] at *
        omega
      · exact Nat.le_refl _
  · split
    · split
      · exact Nat.le_refl _
      · dsimp only
        split
        · exact Nat.le_refl _
        · simp
    · exact Nat.le_refl _
  · exact Nat.le_refl _

/-- A value of an attribute with its references replaced. -/
def expandReferences (cs : List Char) : List Char :=
  match cs with
  | [] => []
  | c :: rest =>
    if c = '&' then
      (takeReference true rest).1 ++ expandReferences (takeReference true rest).2
    else (if c = '\x00' then replacement else c) :: expandReferences rest
termination_by cs.length
decreasing_by
  · have := length_takeReference_le true rest
    simp only [List.length_cons]
    omega
  · simp

end Almanac.Html
