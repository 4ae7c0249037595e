import Almanac.Html.Draft
import Almanac.Html.Scanner

/-!
# Building the tree of a page

The state in which a page is built and the moves that the rules for its tokens
are made of: opening and closing elements, looking for one that is open,
reopening formatting that a page closed too early, and finding the place where
the next node goes.
-/

namespace Almanac.Html

/-- Which part of a page the building has come to. -/
inductive Mode where
  | initial
  | beforeHtml
  | beforeHead
  | inHead
  | inHeadNoscript
  | afterHead
  | inBody
  | text
  | inTable
  | inTableText
  | inCaption
  | inColumnGroup
  | inTableBody
  | inRow
  | inCell
  | inTemplate
  | afterBody
  | inFrameset
  | afterFrameset
  | afterAfterBody
  | afterAfterFrameset
  deriving Repr, DecidableEq, Inhabited

/-- A formatting element that may have to be opened again, or the border that no
reopening passes. -/
inductive Formatting where
  | border
  | format (element : Nat) (name : String) (attributes : List Attribute)
  deriving Repr, DecidableEq, Inhabited

/-- A page in the making. -/
structure Builder where
  draft : Draft := Draft.empty
  mode : Mode := .initial
  /-- The mode to go back to after a text. -/
  returnMode : Mode := .initial
  templateModes : List Mode := []
  /-- The open elements, the innermost first. -/
  stack : List Nat := []
  /-- The formatting elements, the latest first. -/
  formatting : List Formatting := []
  head : Option Nat := none
  form : Option Nat := none
  framesetAllowed : Bool := true
  /-- Whether a table may stand in a paragraph. -/
  quirky : Bool := false
  /-- Whether nodes that cannot be in a table are put before it. -/
  fostering : Bool := false
  /-- The characters in a table that wait for their place, the latest first. -/
  waiting : List Char := []
  /-- Whether a line feed that comes next is dropped. -/
  dropsLineFeed : Bool := false
  /-- What counts as markup from here on, if that changes. -/
  scanner : Option Scanner := none
  stopped : Bool := false
  deriving Inhabited

/-- A move that changes the page in the making. -/
abbrev Build := StateM Builder

/-- What becomes of a token: it has been dealt with, or the rules of the mode the
page is in now decide about it. -/
inductive Outcome where
  | done
  | again
  deriving Repr, DecidableEq, Inhabited

/-! ## Names -/

/-- Elements that no formatting runs through. -/
def specialNames : List String := [
  "address", "applet", "area", "article", "aside", "base", "basefont", "bgsound", "blockquote",
  "body", "br", "button", "caption", "center", "col", "colgroup", "dd", "details", "dir", "div",
  "dl", "dt", "embed", "fieldset", "figcaption", "figure", "footer", "form", "frame", "frameset",
  "h1", "h2", "h3", "h4", "h5", "h6", "head", "header", "hgroup", "hr", "html", "iframe", "img",
  "input", "keygen", "li", "link", "listing", "main", "marquee", "menu", "meta", "nav", "noembed",
  "noframes", "noscript", "object", "ol", "p", "param", "plaintext", "pre", "script", "search",
  "section", "select", "source", "style", "summary", "table", "tbody", "td", "template",
  "textarea", "tfoot", "th", "thead", "title", "tr", "track", "ul", "wbr", "xmp"]

/-- The headings. -/
def headingNames : List String := ["h1", "h2", "h3", "h4", "h5", "h6"]

/-- Whether an element is special. -/
def isSpecial : Option (Space × String) → Bool
  | some (.html, name) => specialNames.contains name
  | some (.math, name) => ["mi", "mo", "mn", "ms", "mtext", "annotation-xml"].contains name
  | some (.svg, name) => ["foreignobject", "desc", "title"].contains name
  | none => false

/-- Whether a search for an open element ends at an element. -/
def endsScope (more : List String) : Option (Space × String) → Bool
  | some (.html, name) =>
    ["applet", "caption", "html", "table", "td", "th", "marquee", "object", "select",
      "template"].contains name || more.contains name
  | some (.math, name) => ["mi", "mo", "mn", "ms", "mtext", "annotation-xml"].contains name
  | some (.svg, name) => ["foreignobject", "desc", "title"].contains name
  | none => true

/-- Whether a search for an open element of a table ends at an element. -/
def endsTableScope : Option (Space × String) → Bool
  | some (.html, name) => ["html", "table", "template"].contains name
  | _ => false

/-- The elements that are closed without an end tag. -/
def impliedEndNames : List String :=
  ["dd", "dt", "li", "optgroup", "option", "p", "rb", "rp", "rt", "rtc"]

/-- The elements that the end of a template closes. -/
def thoroughlyImpliedEndNames : List String :=
  impliedEndNames ++ ["caption", "colgroup", "tbody", "td", "tfoot", "th", "thead", "tr"]

/-! ## The open elements -/

/-- The elements behind the first that `found` holds of. -/
def dropThrough (found : Nat → Bool) : List Nat → List Nat
  | [] => []
  | n :: rest => if found n then rest else dropThrough found rest

/-- Whether `found` holds of an element before, or at, the first that `stop`
holds of. -/
def reaches (found stop : Nat → Bool) : List Nat → Bool
  | [] => false
  | n :: rest => found n || (!stop n && reaches found stop rest)

namespace Builder

/-- The innermost open element; the document when none is open. -/
def current (b : Builder) : Nat := b.stack.headD 0

/-- Whether the innermost open element is one of the page's own language with one
of the names. -/
def currentIn (b : Builder) (names : List String) : Bool := b.draft.isHtmlIn names b.current

/-- Whether an element with one of the names is open up to the nearest border. -/
def inScope (b : Builder) (names : List String) (more : List String := []) : Bool :=
  reaches (b.draft.isHtmlIn names) (fun n => endsScope more (b.draft.name? n)) b.stack

/-- Whether an element with one of the names is open inside the nearest table. -/
def inTableScope (b : Builder) (names : List String) : Bool :=
  reaches (b.draft.isHtmlIn names) (fun n => endsTableScope (b.draft.name? n)) b.stack

/-- Whether an element with one of the names is open. -/
def hasOpen (b : Builder) (names : List String) : Bool := b.stack.any (b.draft.isHtmlIn names)

/-- Whether the innermost open element belongs to another language. -/
def inForeign (b : Builder) : Bool :=
  match b.stack with
  | [] => false
  | n :: _ =>
    match b.draft.name? n with
    | some (.html, _) => false
    | _ => true

/-! ## Places -/

/-- The end of an element, or of the content of a template. -/
def endOf (d : Draft) (n : Nat) : Place := .endOf (((d.node? n).bind (·.template)).getD n)

/-- The element that is open right outside the first of the elements `found`
holds of. -/
def outside (found : Nat → Bool) (stack : List Nat) : Option Nat := (dropThrough found stack).head?

/-- Where a node goes that belongs at the end of `target`: there, or before the
table around it when it cannot be in the table. -/
def placeIn (b : Builder) (target : Nat) : Place :=
  let d := b.draft
  if b.fostering && d.isHtmlIn ["table", "tbody", "tfoot", "thead", "tr"] target then
    let isTable := d.isHtml "table"
    let isTemplate := d.isHtml "template"
    match b.stack.find? fun n => isTable n || isTemplate n with
    | none => endOf d (b.stack.getLast?.getD 0)
    | some n =>
      if isTemplate n then endOf d n
      else
        match d.parent? n with
        | some p => .before p n
        | none => endOf d ((outside (· == n) b.stack).getD 0)
  else endOf d target

/-- Where the next node goes. -/
def place (b : Builder) : Place := b.placeIn b.current

end Builder

/-! ## Moves -/

namespace Build

/-- Goes over to a mode. -/
def enter (mode : Mode) : Build Unit := modify fun b => { b with mode := mode }

/-- Closes the innermost open element. -/
def pop : Build Unit := modify fun b => { b with stack := b.stack.drop 1 }

/-- Closes open elements up to and including one with one of the names. -/
def popThrough (names : List String) : Build Unit := modify fun b =>
  { b with stack := dropThrough (b.draft.isHtmlIn names) b.stack }

/-- Closes open elements until one with one of the names is the innermost. -/
def popTo (names : List String) : Build Unit := modify fun b =>
  { b with stack := b.stack.dropWhile fun n => !b.draft.isHtmlIn names n }

/-- Closes the innermost elements as long as they have one of the names. -/
def popWhile (names : List String) : Build Unit := modify fun b =>
  { b with stack := b.stack.dropWhile (b.draft.isHtmlIn names) }

/-- Closes what needs no end tag, except elements with one of the names. -/
def popImplied (except : List String := []) : Build Unit :=
  popWhile (impliedEndNames.filter fun name => !except.contains name)

/-- Closes a paragraph. -/
def closeParagraph : Build Unit := do
  popImplied ["p"]
  popThrough ["p"]

/-- Closes a paragraph if one is open. -/
def closeOpenParagraph : Build Unit := do
  if (← get).inScope ["p"] ["button"] then closeParagraph

/-- A frameset may no longer take the place of the body. -/
def forbidFrameset : Build Unit := modify fun b => { b with framesetAllowed := false }

/-- Puts a character at the current place; the document itself holds none. -/
def insertChar (c : Char) : Build Unit := modify fun b =>
  match b.place with
  | .endOf 0 => b
  | place => { b with draft := b.draft.insertChar place c }

/-- Puts a node of a kind at a place. -/
def insertAt (place : Place) (kind : DraftKind) : Build Unit := modify fun b =>
  let (n, d) := b.draft.create kind
  { b with draft := d.insert place n }

/-- Puts a comment at the current place. -/
def insertComment (text : String) : Build Unit := do
  insertAt (← get).place (.comment text)

/-- Opens an element at the current place. -/
def openElement (space : Space) (name : String) (attributes : List Attribute) : Build Nat :=
  modifyGet fun b =>
    let place := b.place
    let (n, d) := b.draft.createElement space name attributes
    (n, { b with draft := d.insert place n, stack := n :: b.stack })

/-- Opens the element of a start tag. -/
def openTag (tag : StartTag) : Build Unit := discard (openElement .html tag.name tag.attributes)

/-- Opens an element without attributes. -/
def openName (name : String) : Build Unit := openTag (.plain name)

/-- Puts in the element of a start tag that has no content. -/
def insertEmpty (tag : StartTag) : Build Unit := do
  openTag tag
  pop

/-- Opens an element that holds text, with what counts as markup in it. -/
def openText (tag : StartTag) (scanner : Scanner) : Build Unit := do
  openTag tag
  modify fun b => { b with scanner := some scanner, returnMode := b.mode, mode := .text }

/-! ## Formatting -/

/-- The formatting elements behind the nearest border. -/
def withoutSection (list : List Formatting) : List Formatting :=
  (list.dropWhile (· != .border)).drop 1

/-- Forgets the formatting elements up to the nearest border. -/
def clearFormatting : Build Unit := modify fun b =>
  { b with formatting := withoutSection b.formatting }

/-- Puts up a border against formatting. -/
def pushBorder : Build Unit := modify fun b => { b with formatting := .border :: b.formatting }

/-- Whether an entry is for an element. -/
def isFor (element : Nat) : Formatting → Bool
  | .border => false
  | .format n _ _ => n == element

/-- The entries with the one for an element replaced. -/
def replaceEntry (element : Nat) (entry : Formatting) (list : List Formatting) :
    List Formatting :=
  list.map fun e => if isFor element e then entry else e

/-- The entries without the one for an element. -/
def dropEntry (element : Nat) (list : List Formatting) : List Formatting :=
  list.filter fun e => !isFor element e

/-- Whether two attribute lists hold the same attributes. -/
def sameAttributes (a b : List Attribute) : Bool :=
  a.length == b.length && a.all b.contains

/-- Whether an entry is like an element with this name and these attributes. -/
def isLike (name : String) (attributes : List Attribute) : Formatting → Bool
  | .border => false
  | .format _ other more => other == name && sameAttributes attributes more

/-- Notes a formatting element; of more than three that are alike since the last
border the earliest is forgotten. -/
def pushFormatting (element : Nat) (tag : StartTag) : Build Unit := modify fun b =>
  let since := b.formatting.takeWhile (· != .border)
  let alike := since.filter (isLike tag.name tag.attributes)
  let kept :=
    match if alike.length ≥ 3 then alike.getLast? else none with
    | some earliest => b.formatting.filter (· != earliest)
    | none => b.formatting
  { b with formatting := .format element tag.name tag.attributes :: kept }

/-- Opens a formatting element. -/
def openFormatting (tag : StartTag) : Build Unit := do
  let n ← openElement .html tag.name tag.attributes
  pushFormatting n tag

/-- Opens the formatting elements again that were closed without their end tags. -/
def reopenFormatting : Build Unit := do
  let b ← get
  let closed := b.formatting.takeWhile fun
    | .border => false
    | .format n _ _ => !b.stack.contains n
  for entry in closed.reverse do
    match entry with
    | .border => pure ()
    | .format old name attributes =>
      let n ← openElement .html name attributes
      modify fun b =>
        { b with formatting := replaceEntry old (.format n name attributes) b.formatting }

/-- Puts an entry behind another in the order of formatting elements, which is
before it in the list. -/
def insertAfterEntry (element : Nat) (entry : Formatting) : List Formatting → List Formatting
  | [] => [entry]
  | e :: rest =>
    if isFor element e then entry :: e :: rest else e :: insertAfterEntry element entry rest

/-- Puts an element inside another among the open elements. -/
def insertInside (outer inner : Nat) : List Nat → List Nat
  | [] => []
  | n :: rest => if n = outer then inner :: n :: rest else n :: insertInside outer inner rest

/-- The end tag of an element that is neither special nor formatting: it closes
the nearest open element of its name, unless a special one is in between. -/
def closeOrdinary (name : String) : Build Unit := modify fun b =>
  let blocks (n : Nat) : Bool := isSpecial (b.draft.name? n)
  match b.stack.find? fun n => b.draft.isHtml name n || blocks n with
  | some n =>
    if b.draft.isHtml name n then { b with stack := dropThrough (· == n) b.stack } else b
  | none => b

/-- The state of moving the end of a formatting element past a block. -/
structure Adoption where
  /-- The elements that the formatting element is still to be moved over. -/
  above : List Nat
  last : Nat
  count : Nat
  /-- The entry behind which the new entry goes; the old entry's place if none. -/
  bookmark : Option Nat

/-- Copies the open elements between a block and a formatting element, putting
each copy around what has been copied before. -/
def copyBetween (formatting block : Nat) : List Nat → Adoption → Build Adoption
  | [], a => pure a
  | n :: rest, a => do
    if n = formatting then return a
    let count := a.count + 1
    let b ← get
    let entry := b.formatting.find? (isFor n)
    let entry ←
      if count > 3 && entry.isSome then do
        modify fun b => { b with formatting := dropEntry n b.formatting }
        pure none
      else pure entry
    match entry with
    | some (.format _ name attributes) =>
      let bookmark ← modifyGet fun b =>
        let (m, d) := b.draft.createElement .html name attributes
        let d := d.insert (Builder.endOf d m) a.last
        (m, { b with
          draft := d
          stack := b.stack.map fun x => if x = n then m else x
          formatting := replaceEntry n (.format m name attributes) b.formatting })
      copyBetween formatting block rest
        { a with
          last := bookmark
          count := count
          bookmark := if a.last = block then some bookmark else a.bookmark }
    | _ =>
      modify fun b => { b with stack := b.stack.filter (· != n) }
      copyBetween formatting block rest { a with count := count }

/-- One round of moving the end of the formatting element `name` past a block;
whether there may be another round. -/
def adoptOnce (name : String) : Build Bool := do
  let b ← get
  let since := b.formatting.takeWhile (· != .border)
  let entry := since.find? fun
    | .border => false
    | .format _ other _ => other == name
  match entry with
  | some (.format formatting _ attributes) =>
    if !b.stack.contains formatting then
      modify fun b => { b with formatting := dropEntry formatting b.formatting }
      return false
    let stops (n : Nat) : Bool := endsScope [] (b.draft.name? n)
    if !reaches (· == formatting) stops b.stack then return false
    let inside := b.stack.takeWhile (· != formatting)
    match inside.reverse.find? fun n => isSpecial (b.draft.name? n) with
    | none =>
      modify fun b =>
        { b with
          stack := dropThrough (· == formatting) b.stack
          formatting := dropEntry formatting b.formatting }
      return false
    | some block =>
      let ancestor := (Builder.outside (· == formatting) b.stack).getD 0
      let between := dropThrough (· == block) b.stack
      let a ← copyBetween formatting block between ⟨between, block, 0, none⟩
      modify fun b =>
        let d := b.draft.insert (b.placeIn ancestor) a.last
        let (m, d) := d.createElement .html name attributes
        let d := d.moveChildren block m
        let d := d.insert (Builder.endOf d block) m
        let new := Formatting.format m name attributes
        let list :=
          match a.bookmark with
          | none => replaceEntry formatting new b.formatting
          | some mark =>
            insertAfterEntry mark new (dropEntry formatting b.formatting)
        { b with
          draft := d
          formatting := list
          stack := insertInside block m (b.stack.filter (· != formatting)) }
      return true
  | _ =>
    closeOrdinary name
    return false

/-- The end tag of a formatting element, which may have to be moved past blocks
that the page opened inside it. -/
def adopt (name : String) : Build Unit := do
  let b ← get
  let simple := b.draft.isHtml name b.current && !b.formatting.any (isFor b.current)
  if simple then pop
  else
    let mut going := true
    for _ in [0:8] do
      if going then going ← adoptOnce name

/-! ## Modes -/

/-- Finds the mode from the open elements. -/
def resetMode : Build Unit := modify fun b =>
  let modeOf (n : Nat) (outermost : Bool) : Option Mode :=
    match b.draft.name? n with
    | some (.html, name) =>
      match name with
      | "td" | "th" => if outermost then none else some .inCell
      | "tr" => some .inRow
      | "tbody" | "thead" | "tfoot" => some .inTableBody
      | "caption" => some .inCaption
      | "colgroup" => some .inColumnGroup
      | "table" => some .inTable
      | "template" => some (b.templateModes.headD .inBody)
      | "head" => if outermost then none else some .inHead
      | "body" => some .inBody
      | "frameset" => some .inFrameset
      | "html" => some (if b.head.isNone then .beforeHead else .afterHead)
      | _ => none
    | _ => none
  let rec find : List Nat → Mode
    | [] => .inBody
    | n :: rest => (modeOf n rest.isEmpty).getD (find rest)
  { b with mode := find b.stack }

/-- The token has been dealt with. -/
def done : Build Outcome := pure .done

/-- The rules of the mode that the page is in now decide. -/
def again (mode : Mode) : Build Outcome := do
  enter mode
  return .again

end Build

end Almanac.Html
