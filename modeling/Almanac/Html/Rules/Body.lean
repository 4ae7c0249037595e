import Almanac.Html.Builder

/-!
# Rules for the head and the body of a page

What the tokens in the head and in the body do to the tree. Every other part of a
page falls back on these rules for what it does not treat itself.
-/

namespace Almanac.Html.Rules

open Build

/-! ## The head -/

/-- A start tag whose element the head holds, wherever it stands. -/
def headStartNames : List String :=
  ["base", "basefont", "bgsound", "link", "meta", "noframes", "script", "style", "template",
    "title"]

/-- The end of a template. -/
def endTemplate : Build Outcome := do
  if (← get).hasOpen ["template"] then
    popWhile thoroughlyImpliedEndNames
    popThrough ["template"]
    clearFormatting
    modify fun b => { b with templateModes := b.templateModes.drop 1 }
    resetMode
  done

/-- The start tag of an element that the head holds. -/
def startInHead (tag : StartTag) : Build Outcome := do
  match tag.name with
  | "title" => openText tag (.referencesOnly "title")
  | "noframes" | "style" => openText tag (.endTagOnly tag.name)
  | "script" => openText tag (.script .plain)
  | "template" =>
    openTag tag
    pushBorder
    forbidFrameset
    modify fun b =>
      { b with mode := .inTemplate, templateModes := .inTemplate :: b.templateModes }
  | _ => insertEmpty tag
  done

/-! ## Start tags in the body -/

/-- Elements that close a paragraph when they begin. -/
def blockNames : List String := [
  "address", "article", "aside", "blockquote", "center", "details", "dialog", "dir", "div", "dl",
  "fieldset", "figcaption", "figure", "footer", "header", "hgroup", "main", "menu", "nav", "ol",
  "p", "search", "section", "summary", "ul"]

/-- Elements that only change how text looks. -/
def formattingNames : List String :=
  ["b", "big", "code", "em", "font", "i", "s", "small", "strike", "strong", "tt", "u"]

/-- Elements that only a table holds, or a page has once. -/
def misplacedNames : List String :=
  ["caption", "col", "colgroup", "frame", "head", "tbody", "td", "tfoot", "th", "thead", "tr"]

/-- A list item or a definition begins: the one before it ends. -/
def startItem (tag : StartTag) (names : List String) : Build Unit := do
  forbidFrameset
  let b ← get
  let isItem := b.draft.isHtmlIn names
  let blocks (n : Nat) : Bool :=
    isSpecial (b.draft.name? n) && !b.draft.isHtmlIn ["address", "div", "p"] n
  match b.stack.find? fun n => isItem n || blocks n with
  | some n =>
    if isItem n then
      match b.draft.name? n with
      | some (_, name) =>
        popImplied [name]
        popThrough [name]
      | none => pure ()
  | none => pure ()
  closeOpenParagraph
  openTag tag

/-- A frameset takes the place of the body. -/
def startFrameset (tag : StartTag) : Build Unit := do
  let b ← get
  match b.stack.reverse with
  | html :: body :: _ =>
    if b.framesetAllowed && b.draft.isHtml "body" body then
      modify fun b => { b with draft := b.draft.detach body, stack := [html] }
      openTag tag
      enter .inFrameset
  | _ => pure ()

/-- The names of attributes that another language's elements have from a third. -/
def foreignAttribute (a : Attribute) : Attribute :=
  match a.name with
  | "xlink:actuate" => { a with name := "actuate" }
  | "xlink:arcrole" => { a with name := "arcrole" }
  | "xlink:href" => { a with name := "href" }
  | "xlink:role" => { a with name := "role" }
  | "xlink:show" => { a with name := "show" }
  | "xlink:title" => { a with name := "title" }
  | "xlink:type" => { a with name := "type" }
  | "xml:lang" => { a with name := "lang" }
  | "xml:space" => { a with name := "space" }
  | "xmlns:xlink" => { a with name := "xlink" }
  | _ => a

/-- An element of another language begins. -/
def startForeign (space : Space) (tag : StartTag) : Build Unit := do
  discard (openElement space tag.name (tag.attributes.map foreignAttribute))
  if tag.selfClosing then pop

/-- The page opens its outermost element or its body once more. -/
def addToOpen (n : Option Nat) (tag : StartTag) : Build Unit := do
  let b ← get
  match n with
  | some n =>
    if !b.hasOpen ["template"] then
      modify fun b => { b with draft := b.draft.addAttributes n tag.attributes }
  | none => pure ()

/-- The start tag of `html` after the element has been opened. -/
def startHtml (tag : StartTag) : Build Outcome := do
  addToOpen (← get).stack.getLast? tag
  done

/-- A start tag in the body. -/
def startInBody (tag : StartTag) : Build Outcome := do
  let b ← get
  let name := tag.name
  if name = "html" then startHtml tag
  else if headStartNames.contains name then startInHead tag
  else if name = "body" then
    match b.stack.reverse with
    | _ :: body :: _ =>
      if b.draft.isHtml "body" body && !b.hasOpen ["template"] then
        forbidFrameset
        addToOpen (some body) tag
    | _ => pure ()
    done
  else if name = "frameset" then
    startFrameset tag
    done
  else if blockNames.contains name then
    closeOpenParagraph
    openTag tag
    done
  else if headingNames.contains name then
    closeOpenParagraph
    if (← get).currentIn headingNames then pop
    openTag tag
    done
  else if name = "pre" || name = "listing" then
    closeOpenParagraph
    openTag tag
    modify fun b => { b with dropsLineFeed := true, framesetAllowed := false }
    done
  else if name = "form" then
    let inTemplate := b.hasOpen ["template"]
    if b.form.isNone || inTemplate then
      closeOpenParagraph
      let n ← openElement .html name tag.attributes
      if !inTemplate then modify fun b => { b with form := some n }
    done
  else if name = "li" then
    startItem tag ["li"]
    done
  else if name = "dd" || name = "dt" then
    startItem tag ["dd", "dt"]
    done
  else if name = "plaintext" then
    closeOpenParagraph
    openTag tag
    modify fun b => { b with scanner := some .nothing }
    done
  else if name = "button" then
    if b.inScope ["button"] then
      popImplied
      popThrough ["button"]
    reopenFormatting
    openTag tag
    forbidFrameset
    done
  else if name = "a" then
    let since := b.formatting.takeWhile (· != .border)
    let earlier := since.findSome? fun
      | .format n "a" _ => some n
      | _ => none
    match earlier with
    | some n =>
      adopt "a"
      modify fun b =>
        { b with formatting := dropEntry n b.formatting, stack := b.stack.filter (· != n) }
    | none => pure ()
    reopenFormatting
    openFormatting tag
    done
  else if formattingNames.contains name then
    reopenFormatting
    openFormatting tag
    done
  else if name = "nobr" then
    reopenFormatting
    if (← get).inScope ["nobr"] then
      adopt "nobr"
      reopenFormatting
    openFormatting tag
    done
  else if ["applet", "marquee", "object"].contains name then
    reopenFormatting
    openTag tag
    pushBorder
    forbidFrameset
    done
  else if name = "table" then
    if !b.quirky then closeOpenParagraph
    openTag tag
    forbidFrameset
    enter .inTable
    done
  else if ["area", "br", "embed", "img", "keygen", "wbr"].contains name then
    reopenFormatting
    insertEmpty tag
    forbidFrameset
    done
  else if name = "input" then
    if b.inScope ["select"] then popThrough ["select"]
    reopenFormatting
    insertEmpty tag
    if ((tag.value? "type").map Text.lowerLatin) != some "hidden" then forbidFrameset
    done
  else if ["param", "source", "track"].contains name then
    insertEmpty tag
    done
  else if name = "hr" then
    closeOpenParagraph
    if (← get).inScope ["select"] then popImplied
    insertEmpty tag
    forbidFrameset
    done
  else if name = "image" then
    reopenFormatting
    insertEmpty { tag with name := "img" }
    forbidFrameset
    done
  else if name = "textarea" then
    openText tag (.referencesOnly "textarea")
    modify fun b => { b with dropsLineFeed := true, framesetAllowed := false }
    done
  else if name = "xmp" then
    closeOpenParagraph
    reopenFormatting
    forbidFrameset
    openText tag (.endTagOnly name)
    done
  else if name = "iframe" then
    forbidFrameset
    openText tag (.endTagOnly name)
    done
  else if name = "noembed" then
    openText tag (.endTagOnly name)
    done
  else if name = "select" then
    if b.inScope ["select"] then popThrough ["select"]
    else
      reopenFormatting
      openTag tag
      forbidFrameset
    done
  else if name = "option" then
    if b.inScope ["select"] then popImplied ["optgroup"]
    else if b.currentIn ["option"] then pop
    reopenFormatting
    openTag tag
    done
  else if name = "optgroup" then
    if b.inScope ["select"] then popImplied
    else if b.currentIn ["option"] then pop
    reopenFormatting
    openTag tag
    done
  else if name = "rb" || name = "rtc" then
    if b.inScope ["ruby"] then popImplied
    openTag tag
    done
  else if name = "rp" || name = "rt" then
    if b.inScope ["ruby"] then popImplied ["rtc"]
    openTag tag
    done
  else if name = "math" then
    reopenFormatting
    startForeign .math tag
    done
  else if name = "svg" then
    reopenFormatting
    startForeign .svg tag
    done
  else if misplacedNames.contains name then done
  else
    reopenFormatting
    openTag tag
    done

/-! ## End tags in the body -/

/-- Elements whose end tag closes what is open in them. -/
def blockEndNames : List String := [
  "address", "article", "aside", "blockquote", "button", "center", "details", "dialog", "dir",
  "div", "dl", "fieldset", "figcaption", "figure", "footer", "header", "hgroup", "listing", "main",
  "menu", "nav", "ol", "pre", "search", "section", "select", "summary", "ul"]

/-- The end tag of a form. -/
def endForm : Build Unit := do
  let b ← get
  if b.hasOpen ["template"] then
    if b.inScope ["form"] then
      popImplied
      popThrough ["form"]
  else
    modify fun b => { b with form := none }
    match b.form with
    | some n =>
      if reaches (· == n) (fun m => endsScope [] (b.draft.name? m)) b.stack then
        popImplied
        modify fun b => { b with stack := b.stack.filter (· != n) }
    | none => pure ()

/-- An end tag in the body. -/
def endInBody (name : String) : Build Outcome := do
  let b ← get
  if name = "template" then endTemplate
  else if name = "body" then
    if b.inScope ["body"] then enter .afterBody
    done
  else if name = "html" then
    if b.inScope ["body"] then again .afterBody else done
  else if blockEndNames.contains name then
    if b.inScope [name] then
      popImplied
      popThrough [name]
    done
  else if name = "form" then
    endForm
    done
  else if name = "p" then
    if !b.inScope ["p"] ["button"] then openName "p"
    closeParagraph
    done
  else if name = "li" then
    if b.inScope ["li"] ["ol", "ul"] then
      popImplied ["li"]
      popThrough ["li"]
    done
  else if name = "dd" || name = "dt" then
    if b.inScope [name] then
      popImplied [name]
      popThrough [name]
    done
  else if headingNames.contains name then
    if b.inScope headingNames then
      popImplied
      popThrough headingNames
    done
  else if name = "a" || name = "nobr" || formattingNames.contains name then
    adopt name
    done
  else if ["applet", "marquee", "object"].contains name then
    if b.inScope [name] then
      popImplied
      popThrough [name]
      clearFormatting
    done
  else if name = "br" then
    reopenFormatting
    insertEmpty (.plain "br")
    forbidFrameset
    done
  else
    closeOrdinary name
    done

/-! ## The modes -/

/-- The end of the page in a template closes it. -/
def endOfPageInTemplate : Build Outcome := do
  if (← get).hasOpen ["template"] then
    popThrough ["template"]
    clearFormatting
    modify fun b => { b with templateModes := b.templateModes.drop 1 }
    resetMode
    return .again
  else
    modify fun b => { b with stopped := true }
    done

/-- A token in the body. -/
def inBody (token : Token) : Build Outcome := do
  match token with
  | .char c =>
    if c != '\x00' then
      reopenFormatting
      insertChar c
      if !isTagBlank c then forbidFrameset
    done
  | .comment text =>
    insertComment text
    done
  | .doctype _ => done
  | .startTag tag => startInBody tag
  | .endTag name => endInBody name
  | .endOfPage =>
    if (← get).templateModes.isEmpty then
      modify fun b => { b with stopped := true }
      done
    else endOfPageInTemplate

/-- A token in the head. -/
def inHead (token : Token) : Build Outcome := do
  let leave : Build Outcome := do
    pop
    again .afterHead
  match token with
  | .char c =>
    if isTagBlank c then
      insertChar c
      done
    else leave
  | .comment text =>
    insertComment text
    done
  | .doctype _ => done
  | .startTag tag =>
    if tag.name = "html" then startInBody tag
    else if tag.name = "noscript" then
      openTag tag
      enter .inHeadNoscript
      done
    else if headStartNames.contains tag.name then startInHead tag
    else if tag.name = "head" then done
    else leave
  | .endTag name =>
    if name = "head" then
      pop
      enter .afterHead
      done
    else if ["body", "html", "br"].contains name then leave
    else if name = "template" then endTemplate
    else done
  | .endOfPage => leave

end Almanac.Html.Rules
