import Almanac.Html.Rules.Table

/-!
# Rules for the frame of a page

What the tokens before the head, between head and body, after the body and in a
frameset do to the tree. Missing outer elements are put in: every page has its
`html`, its head and its body or frameset.
-/

namespace Almanac.Html.Rules

open Build

/-! ## Document types -/

/-- Beginnings of public identifiers of old document types. -/
def oldPublicIds : List String := [
  "-//advasoft ltd//dtd html 3.0 aswedit + extensions//",
  "-//as//dtd html 3.0 aswedit + extensions//", "-//ietf//dtd html 2.0 level 1//",
  "-//ietf//dtd html 2.0 level 2//", "-//ietf//dtd html 2.0 strict level 1//",
  "-//ietf//dtd html 2.0 strict level 2//", "-//ietf//dtd html 2.0 strict//",
  "-//ietf//dtd html 2.0//", "-//ietf//dtd html 2.1e//", "-//ietf//dtd html 3.0//",
  "-//ietf//dtd html 3.2 final//", "-//ietf//dtd html 3.2//", "-//ietf//dtd html 3//",
  "-//ietf//dtd html level 0//", "-//ietf//dtd html level 1//", "-//ietf//dtd html level 2//",
  "-//ietf//dtd html level 3//", "-//ietf//dtd html strict level 0//",
  "-//ietf//dtd html strict level 1//", "-//ietf//dtd html strict level 2//",
  "-//ietf//dtd html strict level 3//", "-//ietf//dtd html strict//", "-//ietf//dtd html//",
  "-//metrius//dtd metrius presentational//",
  "-//microsoft//dtd internet explorer 2.0 html strict//",
  "-//microsoft//dtd internet explorer 2.0 html//",
  "-//microsoft//dtd internet explorer 2.0 tables//",
  "-//microsoft//dtd internet explorer 3.0 html strict//",
  "-//microsoft//dtd internet explorer 3.0 html//",
  "-//microsoft//dtd internet explorer 3.0 tables//", "-//netscape comm. corp.//dtd html//",
  "-//netscape comm. corp.//dtd strict html//", "-//o'reilly and associates//dtd html 2.0//",
  "-//o'reilly and associates//dtd html extended 1.0//",
  "-//o'reilly and associates//dtd html extended relaxed 1.0//",
  "-//softquad software//dtd hotmetal pro 6.0::19990601::extensions to html 4.0//",
  "-//softquad//dtd hotmetal pro 4.0::19971010::extensions to html 4.0//",
  "-//spyglass//dtd html 2.0 extended//", "-//sq//dtd html 2.0 hotmetal + extensions//",
  "-//sun microsystems corp.//dtd hotjava html//",
  "-//sun microsystems corp.//dtd hotjava strict html//", "-//w3c//dtd html 3 1995-03-24//",
  "-//w3c//dtd html 3.2 draft//", "-//w3c//dtd html 3.2 final//", "-//w3c//dtd html 3.2//",
  "-//w3c//dtd html 3.2s draft//", "-//w3c//dtd html 4.0 frameset//",
  "-//w3c//dtd html 4.0 transitional//", "-//w3c//dtd html experimental 19960712//",
  "-//w3c//dtd html experimental 970421//", "-//w3c//dtd w3 html//", "-//w3o//dtd w3 html 3.0//",
  "-//webtechs//dtd mozilla html 2.0//", "-//webtechs//dtd mozilla html//"]

/-- Whether a page with this document type is laid out in the old way, in which a
table may stand in a paragraph. -/
def isQuirky (declaration : Doctype) : Bool :=
  let publicId := declaration.publicId.map Text.lowerLatin
  let systemId := declaration.systemId.map Text.lowerLatin
  let startsWith (beginning : String) : Bool := publicId.any (Text.beginsWith · beginning)
  declaration.broken || declaration.name != some "html"
    || publicId == some "-//w3o//dtd w3 html strict 3.0//en//"
    || publicId == some "-/w3c/dtd html 4.0 transitional/en" || publicId == some "html"
    || systemId == some "http://www.ibm.com/data/dtd/v11/ibmxhtml1-transitional.dtd"
    || oldPublicIds.any startsWith
    || (systemId.isNone && (startsWith "-//w3c//dtd html 4.01 frameset//"
      || startsWith "-//w3c//dtd html 4.01 transitional//"))

/-! ## Before the body -/

/-- A token before anything else. -/
def initial (token : Token) : Build Outcome := do
  match token with
  | .char c =>
    if isTagBlank c then done
    else
      modify fun b => { b with quirky := true }
      again .beforeHtml
  | .comment text =>
    insertAt (.endOf 0) (.comment text)
    done
  | .doctype declaration =>
    insertAt (.endOf 0) (.doctype (declaration.name.getD ""))
    modify fun b => { b with quirky := isQuirky declaration }
    enter .beforeHtml
    done
  | _ =>
    modify fun b => { b with quirky := true }
    again .beforeHtml

/-- Opens the outermost element of the page. -/
def openRoot (attributes : List Attribute) : Build Unit := do
  modify fun b =>
    let (n, d) := b.draft.createElement .html "html" attributes
    { b with draft := d.insert (.endOf 0) n, stack := [n] }
  enter .beforeHead

/-- A token before the outermost element. -/
def beforeHtml (token : Token) : Build Outcome := do
  let goOn : Build Outcome := do
    openRoot []
    return .again
  match token with
  | .char c => if isTagBlank c then done else goOn
  | .comment text =>
    insertAt (.endOf 0) (.comment text)
    done
  | .doctype _ => done
  | .startTag tag =>
    if tag.name = "html" then
      openRoot tag.attributes
      done
    else goOn
  | .endTag name => if ["head", "body", "html", "br"].contains name then goOn else done
  | .endOfPage => goOn

/-- Opens the head. -/
def openHead (tag : StartTag) : Build Unit := do
  let n ← openElement .html "head" tag.attributes
  modify fun b => { b with head := some n, mode := .inHead }

/-- A token before the head. -/
def beforeHead (token : Token) : Build Outcome := do
  let goOn : Build Outcome := do
    openHead (.plain "head")
    return .again
  match token with
  | .char c => if isTagBlank c then done else goOn
  | .comment text =>
    insertComment text
    done
  | .doctype _ => done
  | .startTag tag =>
    if tag.name = "html" then startInBody tag
    else if tag.name = "head" then
      openHead tag
      done
    else goOn
  | .endTag name => if ["head", "body", "html", "br"].contains name then goOn else done
  | .endOfPage => goOn

/-- A token in the part of the head for pages without scripts. -/
def inHeadNoscript (token : Token) : Build Outcome := do
  let leave : Build Outcome := do
    pop
    again .inHead
  match token with
  | .char c => if isTagBlank c then inHead token else leave
  | .comment _ => inHead token
  | .doctype _ => done
  | .startTag tag =>
    if tag.name = "html" then startInBody tag
    else if ["basefont", "bgsound", "link", "meta", "noframes", "style"].contains tag.name then
      inHead token
    else if ["head", "noscript"].contains tag.name then done
    else leave
  | .endTag name =>
    if name = "noscript" then
      pop
      enter .inHead
      done
    else if name = "br" then leave
    else done
  | .endOfPage => leave

/-- A token between the head and the body. -/
def afterHead (token : Token) : Build Outcome := do
  let goOn : Build Outcome := do
    openName "body"
    again .inBody
  match token with
  | .char c =>
    if isTagBlank c then
      insertChar c
      done
    else goOn
  | .comment text =>
    insertComment text
    done
  | .doctype _ => done
  | .startTag tag =>
    if tag.name = "html" then startInBody tag
    else if tag.name = "body" then
      openTag tag
      forbidFrameset
      enter .inBody
      done
    else if tag.name = "frameset" then
      openTag tag
      enter .inFrameset
      done
    else if headStartNames.contains tag.name then
      -- The head is open again for this one element.
      match (← get).head with
      | some head =>
        modify fun b => { b with stack := head :: b.stack }
        let outcome ← startInHead tag
        modify fun b => { b with stack := b.stack.filter (· != head) }
        return outcome
      | none => done
    else if tag.name = "head" then done
    else goOn
  | .endTag name =>
    if name = "template" then endTemplate
    else if ["body", "html", "br"].contains name then goOn
    else done
  | .endOfPage => goOn

/-! ## Texts -/

/-- A token in an element that holds text. -/
def text (token : Token) : Build Outcome := do
  let b ← get
  match token with
  | .char c =>
    insertChar c
    done
  | .endOfPage =>
    pop
    again b.returnMode
  | _ =>
    pop
    enter b.returnMode
    done

/-! ## After the body -/

/-- A comment behind the body, in the outermost element. -/
def commentInRoot (text : String) : Build Unit := do
  insertAt (.endOf ((← get).stack.getLast?.getD 0)) (.comment text)

/-- The page ends here. -/
def stop : Build Outcome := do
  modify fun b => { b with stopped := true }
  done

/-- A token after the body. -/
def afterBody (token : Token) : Build Outcome := do
  match token with
  | .char c => if isTagBlank c then inBody token else again .inBody
  | .comment text =>
    commentInRoot text
    done
  | .doctype _ => done
  | .startTag tag => if tag.name = "html" then startInBody tag else again .inBody
  | .endTag name =>
    if name = "html" then
      enter .afterAfterBody
      done
    else again .inBody
  | .endOfPage => stop

/-- A token after the outermost element. -/
def afterAfterBody (token : Token) : Build Outcome := do
  match token with
  | .char c => if isTagBlank c then inBody token else again .inBody
  | .comment text =>
    insertAt (.endOf 0) (.comment text)
    done
  | .doctype _ => done
  | .startTag tag => if tag.name = "html" then startInBody tag else again .inBody
  | .endTag _ => again .inBody
  | .endOfPage => stop

/-! ## Framesets -/

/-- A token in a frameset. -/
def inFrameset (token : Token) : Build Outcome := do
  match token with
  | .char c =>
    if isTagBlank c then insertChar c
    done
  | .comment text =>
    insertComment text
    done
  | .startTag tag =>
    match tag.name with
    | "html" => startInBody tag
    | "frameset" =>
      openTag tag
      done
    | "frame" =>
      insertEmpty tag
      done
    | "noframes" => startInHead tag
    | _ => done
  | .endTag name =>
    if name = "frameset" && (← get).stack.length > 1 then
      pop
      if !(← get).currentIn ["frameset"] then enter .afterFrameset
    done
  | .doctype _ => done
  | .endOfPage => stop

/-- A token after a frameset. -/
def afterFrameset (token : Token) : Build Outcome := do
  match token with
  | .char c =>
    if isTagBlank c then insertChar c
    done
  | .comment text =>
    insertComment text
    done
  | .startTag tag =>
    match tag.name with
    | "html" => startInBody tag
    | "noframes" => startInHead tag
    | _ => done
  | .endTag name =>
    if name = "html" then enter .afterAfterFrameset
    done
  | .doctype _ => done
  | .endOfPage => stop

/-- A token after a page with a frameset. -/
def afterAfterFrameset (token : Token) : Build Outcome := do
  match token with
  | .char c => if isTagBlank c then inBody token else done
  | .comment text =>
    insertAt (.endOf 0) (.comment text)
    done
  | .startTag tag =>
    match tag.name with
    | "html" => startInBody tag
    | "noframes" => startInHead tag
    | _ => done
  | .endOfPage => stop
  | _ => done

end Almanac.Html.Rules
