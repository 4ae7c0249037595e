import Almanac.Encoding.Table.CodePages
import Almanac.Encoding.Table.Labels
import Almanac.Text.Case
import Almanac.Text.Utf8

/-!
# Encodings

How the bytes of a page stand for characters. An encoding is named by a label, in
capital or small letters.
-/

namespace Almanac

/-- How bytes stand for characters. -/
inductive Encoding where
  | utf8
  /-- Units of two bytes, the higher or the lower one first. -/
  | utf16 (highFirst : Bool)
  /-- A character for each byte, by the name of the code page and the characters from
  byte 128 on. -/
  | codePage (name upper : String)
  /-- A character for each byte; those from 128 on are for private use. -/
  | userDefined
  /-- Nothing can be read. -/
  | replacement
  /-- An encoding of which only the first 128 characters are known. -/
  | basic (name : String)
  deriving Repr, DecidableEq, Inhabited

namespace Encoding

open Text

/-- The name of an encoding. -/
def name : Encoding → String
  | utf8 => "UTF-8"
  | utf16 true => "UTF-16BE"
  | utf16 false => "UTF-16LE"
  | codePage name _ => name
  | userDefined => "x-user-defined"
  | replacement => "replacement"
  | basic name => name

/-- The encodings that are no code pages. -/
def others : List Encoding := [utf8, utf16 true, utf16 false, userDefined, replacement]

/-- The encoding with a name. -/
def ofName (name : String) : Encoding :=
  match others.find? (·.name == name) with
  | some encoding => encoding
  | none =>
    match Table.codePages.lookup name with
    | some upper => codePage name upper
    | none => basic name

/-- The encoding with a label. -/
def ofLabel? (label : String) : Option Encoding :=
  let label := lowerLatin label
  (Table.labels.find? fun entry => entry.2.contains label).map fun entry => ofName entry.1

/-! ## Characters of bytes -/

/-- A unit that begins a pair. -/
def isHighUnit (n : Nat) : Bool := 0xd800 ≤ n && n ≤ 0xdbff

/-- A unit that ends a pair. -/
def isLowUnit (n : Nat) : Bool := 0xdc00 ≤ n && n ≤ 0xdfff

/-- The character of a pair of units. -/
def pairChar (high low : Nat) : Char :=
  Char.ofNat (0x10000 + (high - 0xd800) * 0x400 + (low - 0xdc00))

/-- The characters of units of two bytes. A half of a pair and a byte that is left over
have a replacement character, and one together where both are at the end. -/
def decodeUtf16 (highFirst : Bool) : List UInt8 → List Char
  | [] => []
  | [_] => [Utf8.replacement]
  | a :: b :: rest =>
    let n := unit a b
    if isHighUnit n then
      match rest with
      | c :: d :: rest' =>
        if isLowUnit (unit c d) then pairChar n (unit c d) :: decodeUtf16 highFirst rest'
        else Utf8.replacement :: decodeUtf16 highFirst (c :: d :: rest')
      | _ => [Utf8.replacement]
    else if isLowUnit n then Utf8.replacement :: decodeUtf16 highFirst rest
    else Char.ofNat n :: decodeUtf16 highFirst rest
where
  /-- The number of two bytes. -/
  unit (a b : UInt8) : Nat :=
    if highFirst then a.toNat * 256 + b.toNat else b.toNat * 256 + a.toNat

/-- The character of a byte in a code page. -/
def codePageChar (upper : Array Char) (b : UInt8) : Char :=
  if b < 0x80 then Char.ofNat b.toNat else upper.getD (b.toNat - 0x80) Utf8.replacement

/-- The characters of bytes. -/
def decode : Encoding → List UInt8 → List Char
  | utf8, bytes => Utf8.decode bytes
  | utf16 highFirst, bytes => decodeUtf16 highFirst bytes
  | codePage _ upper, bytes => bytes.map (codePageChar upper.toList.toArray)
  | userDefined, bytes =>
    bytes.map fun b =>
      if b < 0x80 then Char.ofNat b.toNat else Char.ofNat (0xf780 + (b.toNat - 0x80))
  | replacement, bytes => if bytes.isEmpty then [] else [Utf8.replacement]
  | basic _, bytes =>
    bytes.map fun b => if b < 0x80 then Char.ofNat b.toNat else Utf8.replacement

end Encoding

end Almanac
