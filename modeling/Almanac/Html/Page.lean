import Almanac.Document.Basic
import Almanac.Html.Rules.Foreign

/-!
# Reading a page

`Document.ofHtml` reads the text of a page: the text is cut into tokens, and each
token does to the tree what the rules say. Every text is a page; where its markup
is broken the rules say what it means.
-/

namespace Almanac.Html

/-- Deals with one token. A rule hands a token on only after it closed an element
or went on to a later part of the page, which bounds how often that happens. -/
def Builder.feed (b : Builder) (token : Token) : Builder :=
  if b.stopped then b
  else if b.dropsLineFeed then
    let b := { b with dropsLineFeed := false }
    if token = .char '\n' then b else accept b
  else accept b
where
  accept (b : Builder) : Builder := ((Rules.process token (2 * b.stack.length + 40)).run b).2

/-- Reads the text `cs`, each cut of which takes one character at least. -/
def readFrom : (cuts : Nat) → Scanner → List Char → Builder → Builder
  | 0, _, _, b => b
  | _, _, [], b => b
  | cuts + 1, scanner, c :: rest, b =>
    let cut := scanner.next b.inForeign c rest
    let b := cut.tokens.foldl Builder.feed b
    readFrom cuts (b.scanner.getD cut.scanner) cut.rest { b with scanner := none }

/-- The markup of a page. A byte order mark at its beginning is no part of it. -/
def parse (page : String) : List Markup :=
  let text := match page.toList with
    | '\ufeff' :: rest => rest
    | rest => rest
  let text := normalizeLineEnds text
  ((readFrom text.length .data text {}).feed .endOfPage).draft.content

end Almanac.Html

namespace Almanac

/-- The document that the text of a page is. -/
def Document.ofHtml (page : String) : Document := Document.ofMarkup (Html.parse page)

end Almanac
