import Almanac.Text.Table.Letter
import Almanac.Text.Table.MarkKind
import Almanac.Text.Table.Script
import Almanac.Text.Table.Sign
import Almanac.Text.Search
import Almanac.Pattern.CharSet

/-!
# Character properties in patterns

The sets of characters that a name of a Unicode property stands for: a general category,
one of the common scripts, or one of the properties that tell letters, their case and
white space. In names the case of letters, spaces, dashes and underscores do not count,
and neither does the word "is" in front.
-/

namespace Almanac.Pattern

open Almanac.Text

namespace CharSet

/-! ## General categories -/

/-- The set of ranges of code points. -/
def ofRanges (ranges : CodePoints) : CharSet := points (.ofRanges ranges)

/-- Letters in one of their cases. -/
def cased : CharSet :=
  unionAll [points Table.lowerLetter, points Table.upperLetter, ofRanges Table.titleLetter]

/-- Letters. -/
def letter : CharSet :=
  unionAll [cased, ofRanges Table.modifierLetter, ofRanges Table.otherLetter]

/-- Marks. -/
def mark : CharSet :=
  unionAll [ofRanges Table.nonspacingMark, ofRanges Table.spacingMark,
    ofRanges Table.enclosingMark]

/-- Numbers. -/
def number : CharSet :=
  unionAll [decimalDigit, ofRanges Table.letterNumber, ofRanges Table.otherNumber]

/-- Punctuation. -/
def punctuation : CharSet :=
  unionAll [ofRanges Table.connector, ofRanges Table.dash, ofRanges Table.openingSign,
    ofRanges Table.closingSign, ofRanges Table.initialQuote, ofRanges Table.finalQuote,
    ofRanges Table.otherPunctuation]

/-- Symbols. -/
def symbol : CharSet :=
  unionAll [ofRanges Table.mathSymbol, ofRanges Table.currencySymbol,
    ofRanges Table.modifierSymbol, ofRanges Table.otherSymbol]

/-- The character that separates lines. -/
def lineSeparator : CharSet := only '\u2028'

/-- The character that separates paragraphs. -/
def paragraphSeparator : CharSet := only '\u2029'

/-- Separators. -/
def separator : CharSet :=
  unionAll [ofRanges Table.spaceSeparator, lineSeparator, paragraphSeparator]

/-- Control characters. -/
def control : CharSet := union (range '\x00' '\x1f') (range '\x7f' '\u009f')

/-- Characters for private use. -/
def privateUse : CharSet :=
  ofRanges [(0xe000, 0xf8ff), (0xf0000, 0xffffd), (0x100000, 0x10fffd)]

/-- Characters that have been given a meaning. -/
def assigned : CharSet :=
  unionAll [letter, mark, number, punctuation, symbol, separator, control,
    ofRanges Table.format, privateUse]

/-- All characters. -/
def any : CharSet := complement none

/-- The general categories, with their names. -/
def categories : List (List String × CharSet) := [
  (["l", "letter"], letter), (["lc", "casedletter"], cased),
  (["ll", "lowercaseletter"], points Table.lowerLetter),
  (["lu", "uppercaseletter"], points Table.upperLetter),
  (["lt", "titlecaseletter"], ofRanges Table.titleLetter),
  (["lm", "modifierletter"], ofRanges Table.modifierLetter),
  (["lo", "otherletter"], ofRanges Table.otherLetter),
  (["m", "mark", "combiningmark"], mark),
  (["mn", "nonspacingmark"], ofRanges Table.nonspacingMark),
  (["mc", "spacingmark"], ofRanges Table.spacingMark),
  (["me", "enclosingmark"], ofRanges Table.enclosingMark),
  (["n", "number"], number), (["nd", "decimalnumber", "digit"], decimalDigit),
  (["nl", "letternumber"], ofRanges Table.letterNumber),
  (["no", "othernumber"], ofRanges Table.otherNumber),
  (["p", "punctuation", "punct"], punctuation),
  (["pc", "connectorpunctuation"], ofRanges Table.connector),
  (["pd", "dashpunctuation"], ofRanges Table.dash),
  (["ps", "openpunctuation"], ofRanges Table.openingSign),
  (["pe", "closepunctuation"], ofRanges Table.closingSign),
  (["pi", "initialpunctuation"], ofRanges Table.initialQuote),
  (["pf", "finalpunctuation"], ofRanges Table.finalQuote),
  (["po", "otherpunctuation"], ofRanges Table.otherPunctuation),
  (["s", "symbol"], symbol), (["sm", "mathsymbol"], ofRanges Table.mathSymbol),
  (["sc", "currencysymbol"], ofRanges Table.currencySymbol),
  (["sk", "modifiersymbol"], ofRanges Table.modifierSymbol),
  (["so", "othersymbol"], ofRanges Table.otherSymbol),
  (["z", "separator"], separator), (["zs", "spaceseparator"], ofRanges Table.spaceSeparator),
  (["zl", "lineseparator"], lineSeparator), (["zp", "paragraphseparator"], paragraphSeparator),
  (["c", "other"], unionAll [control, ofRanges Table.format, privateUse, complement assigned]),
  (["cc", "control", "cntrl"], control), (["cf", "format"], ofRanges Table.format),
  (["co", "privateuse"], privateUse), (["cn", "unassigned"], complement assigned),
  (["any"], any), (["assigned"], assigned), (["ascii"], range '\x00' '\x7f')]

/-! ## Scripts -/

/-- The scripts, with their names. -/
def scripts : List (List String × CharSet) := [
  (["latin", "latn"], ofRanges Table.latinScript),
  (["greek", "grek"], ofRanges Table.greekScript),
  (["cyrillic", "cyrl"], ofRanges Table.cyrillicScript),
  (["armenian", "armn"], ofRanges Table.armenianScript),
  (["georgian", "geor"], ofRanges Table.georgianScript),
  (["hebrew", "hebr"], ofRanges Table.hebrewScript),
  (["arabic", "arab"], ofRanges Table.arabicScript),
  (["devanagari", "deva"], ofRanges Table.devanagariScript),
  (["thai"], ofRanges Table.thaiScript),
  (["hangul", "hang"], ofRanges Table.hangulScript),
  (["hiragana", "hira"], ofRanges Table.hiraganaScript),
  (["katakana", "kana"], ofRanges Table.katakanaScript),
  (["han", "hani"], ofRanges Table.hanScript),
  (["common", "zyyy"], ofRanges Table.commonScript)]

/-! ## Properties -/

/-- Characters in upper case. -/
def uppercase : CharSet :=
  union (points Table.upperLetter)
    (ofRanges [(8544, 8559), (9398, 9423), (127280, 127305), (127312, 127337), (127344, 127369)])

/-- Characters in lower case. -/
def lowercase : CharSet :=
  union (points Table.lowerLetter)
    (ofRanges [(170, 170), (186, 186), (688, 696), (704, 705), (736, 740), (837, 837), (890, 890),
      (4348, 4348), (7468, 7530), (7544, 7544), (7579, 7615), (8305, 8305), (8319, 8319),
      (8336, 8348), (8560, 8575), (9424, 9449), (11388, 11389), (42652, 42653), (42864, 42864),
      (42994, 42996), (43000, 43001), (43868, 43871), (43881, 43881), (67456, 67456),
      (67459, 67461), (67463, 67504), (67506, 67514), (122928, 122989)])

/-- The properties that a character has or has not, with their names. -/
def properties : List (List String × CharSet) := [
  (["alphabetic", "alpha"], ofRanges Table.alphabetic),
  (["lowercase", "lower"], lowercase), (["uppercase", "upper"], uppercase),
  (["whitespace", "wspace", "space"], blank),
  (["asciihexdigit", "ahex"], unionAll [range '0' '9', range 'A' 'F', range 'a' 'f'])]

/-! ## Names -/

/-- The set with a name in normal form. -/
def withName? (sets : List (List String × CharSet)) (name : String) : Option CharSet :=
  (sets.find? (·.1.contains name)).map (·.2)

/-- A name in its normal form. -/
def normalName (name : List Char) : String :=
  let body :=
    match name with
    | a :: b :: rest =>
      if equalLatin (String.ofList [a, b]) "is" then rest else name
    | name => name
  String.ofList
    ((body.filter fun c => c != ' ' && c != '_' && c != '-' && c.toNat < 128).map asciiLower)

/-- The set that a name alone stands for. -/
def ofName? (name : List Char) : Option CharSet :=
  let name := normalName name
  ((withName? properties name).or (withName? categories name)).or (withName? scripts name)

/-- The set of the characters whose property has a value. -/
def ofValue? (property value : List Char) : Option CharSet :=
  let property := normalName property
  let value := normalName value
  if property = "gc" || property = "generalcategory" then withName? categories value
  else if property = "sc" || property = "script" then withName? scripts value
  else .none

/-- The set that the text in the braces of a property stands for: a name, or a property
and its value with a sign between them. -/
def ofProperty? (text : List Char) : Option CharSet :=
  match splitFirst ['!', '='] text with
  | some (property, value) => (ofValue? property value).map complement
  | .none =>
    match splitFirst [':'] text with
    | some (property, value) => ofValue? property value
    | .none =>
      match splitFirst ['='] text with
      | some (property, value) => ofValue? property value
      | .none => ofName? text

end CharSet

end Almanac.Pattern
