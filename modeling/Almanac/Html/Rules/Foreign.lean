import Almanac.Html.Rules.Frame

/-!
# Rules for drawings and formulas

What the tokens in elements of other languages do to the tree, and the choice of
the rules that a token is for.
-/

namespace Almanac.Html.Rules

open Build

/-! ## Borders between languages -/

/-- Whether an element of a formula holds text of the page. -/
def holdsMathText (d : Draft) (n : Nat) : Bool :=
  match d.name? n with
  | some (.math, name) => ["mi", "mo", "mn", "ms", "mtext"].contains name
  | _ => false

/-- Whether an element of another language holds elements of the page. -/
def holdsHtml (d : Draft) (n : Nat) : Bool :=
  match d.name? n with
  | some (.svg, name) => ["foreignobject", "desc", "title"].contains name
  | some (.math, "annotation-xml") =>
    (d.attributes n).any fun a =>
      a.name == "encoding" &&
        ["text/html", "application/xhtml+xml"].contains (Text.lowerLatin a.value)
  | _ => false

/-- Whether a token in the current element is for the rules of other languages. -/
def isForeign (b : Builder) (token : Token) : Bool :=
  match b.stack with
  | [] => false
  | n :: _ =>
    let d := b.draft
    match d.name? n with
    | some (.html, _) | none => false
    | some (space, name) =>
      match token with
      | .endOfPage => false
      | .char _ => !holdsMathText d n && !holdsHtml d n
      | .startTag tag =>
        !(holdsMathText d n && tag.name != "mglyph" && tag.name != "malignmark") &&
          !(space == .math && name == "annotation-xml" && tag.name == "svg") && !holdsHtml d n
      | _ => true

/-- Elements of the page that end a drawing or formula. -/
def breakoutNames : List String := [
  "b", "big", "blockquote", "body", "br", "center", "code", "dd", "div", "dl", "dt", "em", "embed",
  "h1", "h2", "h3", "h4", "h5", "h6", "head", "hr", "i", "img", "li", "listing", "menu", "meta",
  "nobr", "ol", "p", "pre", "ruby", "s", "small", "span", "strong", "strike", "sub", "sup", "table",
  "tt", "u", "ul", "var"]

/-- Closes the open elements of other languages. -/
def leaveForeign : Build Unit := modify fun b =>
  { b with stack := b.stack.dropWhile fun n =>
      !(holdsMathText b.draft n || holdsHtml b.draft n ||
        match b.draft.name? n with
        | some (.html, _) | none => true
        | _ => false) }

/-- The open elements after an end tag in a foreign element, if one of the foreign
elements is closed by it. -/
def closeForeign? (d : Draft) (name : String) : List Nat → Option (List Nat)
  | [] => none
  | n :: rest =>
    match d.name? n with
    | some (.html, _) | none => none
    | some (_, other) =>
      if Text.lowerLatin other = name then some rest else closeForeign? d name rest

/-! ## Choosing the rules -/

/-- The rules of a mode. -/
def ofMode (mode : Mode) (token : Token) : Build Outcome :=
  match mode with
  | .initial => initial token
  | .beforeHtml => beforeHtml token
  | .beforeHead => beforeHead token
  | .inHead => inHead token
  | .inHeadNoscript => inHeadNoscript token
  | .afterHead => afterHead token
  | .inBody => inBody token
  | .text => text token
  | .inTable => inTable token
  | .inTableText => inTableText token
  | .inCaption => inCaption token
  | .inColumnGroup => inColumnGroup token
  | .inTableBody => inTableBody token
  | .inRow => inRow token
  | .inCell => inCell token
  | .inTemplate => inTemplate token
  | .afterBody => afterBody token
  | .inFrameset => inFrameset token
  | .afterFrameset => afterFrameset token
  | .afterAfterBody => afterAfterBody token
  | .afterAfterFrameset => afterAfterFrameset token

/-- A token in an element of another language. -/
def inForeign (token : Token) : Build Outcome := do
  let b ← get
  let breakOut : Build Outcome := do
    leaveForeign
    return .again
  match token with
  | .char c =>
    insertChar (visible c)
    if c != '\x00' && !isTagBlank c then forbidFrameset
    done
  | .comment text =>
    insertComment text
    done
  | .startTag tag =>
    let styled := tag.name = "font" &&
      tag.attributes.any fun a => ["color", "face", "size"].contains a.name
    if breakoutNames.contains tag.name || styled then breakOut
    else
      match b.draft.name? b.current with
      | some (space, _) => startForeign space tag
      | none => pure ()
      done
  | .endTag name =>
    if name = "br" || name = "p" then breakOut
    else
      match closeForeign? b.draft name b.stack with
      | some stack =>
        modify fun b => { b with stack := stack }
        done
      | none => ofMode b.mode token
  | .doctype _ | .endOfPage => done

/-- The rules that a token is for. -/
def dispatch (token : Token) : Build Outcome := do
  let b ← get
  if isForeign b token then inForeign token else ofMode b.mode token

/-- Deals with a token, as often as the rules hand it on; `tries` bounds how often
that is. -/
def process (token : Token) : (tries : Nat) → Build Unit
  | 0 => pure ()
  | tries + 1 => do
    match ← dispatch token with
    | .done => pure ()
    | .again => process token tries

end Almanac.Html.Rules
