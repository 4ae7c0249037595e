import Almanac.Encoding.Basic
import Almanac.Html.Page
import Almanac.Pattern.Matching
import Almanac.Pattern.Reader

/-!
# Encodings of pages

The encoding of a page is told by a byte order mark, else by a declaration near its
beginning; a page that tells nothing is UTF-8.
-/

namespace Almanac.Encoding

open Text

/-- The encoding that a byte order mark tells, and the bytes behind the mark. -/
def splitMark? : List UInt8 → Option (Encoding × List UInt8)
  | 0xef :: 0xbb :: 0xbf :: rest => some (utf8, rest)
  | 0xff :: 0xfe :: rest => some (utf16 false, rest)
  | 0xfe :: 0xff :: rest => some (utf16 true, rest)
  | _ => none

/-- How many bytes a declaration is looked for in. -/
def declarationLimit : Nat := 2048

/-- The form of a declaration, of which the first group is the label. -/
def declarationPattern : String :=
  "(?i)<meta[^>]*?charset\\s*=\\s*[\"']?\\s*([a-z0-9_:.\\-]+)"

/-- The label in the first declaration of a text. -/
def declaredLabel? (text : String) : Option String := do
  let pattern ← Pattern.read? declarationPattern
  let declaration ← pattern.program.find? text
  declaration.group? 1

/-- The encoding of a page. -/
def ofPage (page : List UInt8) : Encoding :=
  match splitMark? page with
  | some (encoding, _) => encoding
  | none =>
    let head := String.ofList (Utf8.decode (page.take declarationLimit))
    ((declaredLabel? head).bind ofLabel?).getD utf8

/-- The text of a page, without a byte order mark. -/
def decodePage (page : List UInt8) : String :=
  String.ofList <|
    match splitMark? page with
    | some (encoding, rest) => encoding.decode rest
    | none => (ofPage page).decode page

end Almanac.Encoding

namespace Almanac

/-- The document of a page. -/
def Document.ofPage (page : List UInt8) : Document := Document.ofHtml (Encoding.decodePage page)

end Almanac
