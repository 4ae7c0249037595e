import Almanac.Html.Rules.Body

/-!
# Rules for tables

What the tokens in a table do to the tree. Rows without a body get one, cells
without a row get one, and what cannot be in a table goes before it.
-/

namespace Almanac.Html.Rules

open Build

/-- The rules of the body, with nodes that cannot be in a table put before it. -/
def fosterInBody (token : Token) : Build Outcome := do
  modify fun b => { b with fostering := true }
  let outcome ← inBody token
  modify fun b => { b with fostering := false }
  return outcome

/-- Closes everything in the current table. -/
def clearToTable : Build Unit := popTo ["table", "template", "html"]

/-- Closes everything in the current body of a table. -/
def clearToTableBody : Build Unit := popTo ["tbody", "tfoot", "thead", "template", "html"]

/-- Closes everything in the current row. -/
def clearToRow : Build Unit := popTo ["tr", "template", "html"]

/-- A character in a table waits for its place with those after it. -/
def charInTable (token : Token) : Build Outcome := do
  let b ← get
  if b.currentIn ["table", "tbody", "template", "tfoot", "thead", "tr"] then
    modify fun b =>
      { b with waiting := [], returnMode := b.mode, mode := .inTableText }
    return .again
  else fosterInBody token

/-- Closes the current table. -/
def closeTable : Build Unit := do
  popThrough ["table"]
  resetMode

/-- A start tag in a table. -/
def startInTable (tag : StartTag) : Build Outcome := do
  let b ← get
  match tag.name with
  | "caption" =>
    clearToTable
    pushBorder
    openTag tag
    enter .inCaption
    done
  | "colgroup" =>
    clearToTable
    openTag tag
    enter .inColumnGroup
    done
  | "col" =>
    clearToTable
    openName "colgroup"
    again .inColumnGroup
  | "tbody" | "tfoot" | "thead" =>
    clearToTable
    openTag tag
    enter .inTableBody
    done
  | "td" | "th" | "tr" =>
    clearToTable
    openName "tbody"
    again .inTableBody
  | "table" =>
    if b.inTableScope ["table"] then
      closeTable
      return .again
    else done
  | "style" | "script" | "template" => startInHead tag
  | "input" =>
    if ((tag.value? "type").map Text.lowerLatin) == some "hidden" then
      insertEmpty tag
      done
    else fosterInBody (.startTag tag)
  | "form" =>
    if b.form.isNone && !b.hasOpen ["template"] then
      let n ← openElement .html "form" tag.attributes
      modify fun b => { b with form := some n }
      pop
    done
  | _ => fosterInBody (.startTag tag)

/-- A token in a table. -/
def inTable (token : Token) : Build Outcome := do
  match token with
  | .char _ => charInTable token
  | .comment text =>
    insertComment text
    done
  | .doctype _ => done
  | .startTag tag => startInTable tag
  | .endTag name =>
    if name = "table" then
      if (← get).inTableScope ["table"] then closeTable
      done
    else if ["body", "caption", "col", "colgroup", "html", "tbody", "td", "tfoot", "th", "thead",
        "tr"].contains name then done
    else if name = "template" then endTemplate
    else fosterInBody token
  | .endOfPage => inBody token

/-- A token behind characters that wait for their place in a table: white space
stays in the table, and anything else makes all of them go before it. -/
def inTableText (token : Token) : Build Outcome := do
  match token with
  | .char c =>
    if c != '\x00' then modify fun b => { b with waiting := c :: b.waiting }
    done
  | _ =>
    let b ← get
    let waiting := b.waiting.reverse
    if waiting.all isTagBlank then
      for c in waiting do insertChar c
    else
      for c in waiting do discard (fosterInBody (.char c))
    modify fun b => { b with waiting := [] }
    again b.returnMode

/-- Closes the caption of a table; whether there was one to close. -/
def closeCaption : Build Bool := do
  if (← get).inTableScope ["caption"] then
    popImplied
    popThrough ["caption"]
    clearFormatting
    enter .inTable
    return true
  else return false

/-- Elements that end the caption or cell they stand in. -/
def tablePartNames : List String :=
  ["caption", "col", "colgroup", "tbody", "td", "tfoot", "th", "thead", "tr"]

/-- A token in the caption of a table. -/
def inCaption (token : Token) : Build Outcome := do
  match token with
  | .startTag tag =>
    if tablePartNames.contains tag.name then
      if ← closeCaption then return .again else done
    else inBody token
  | .endTag name =>
    if name = "caption" then
      discard closeCaption
      done
    else if name = "table" then
      if ← closeCaption then return .again else done
    else if ["body", "col", "colgroup", "html", "tbody", "td", "tfoot", "th", "thead",
        "tr"].contains name then done
    else inBody token
  | _ => inBody token

/-- A token in a group of columns. -/
def inColumnGroup (token : Token) : Build Outcome := do
  let leave : Build Outcome := do
    if (← get).currentIn ["colgroup"] then
      pop
      again .inTable
    else done
  match token with
  | .char c =>
    if isTagBlank c then
      insertChar c
      done
    else leave
  | .comment text =>
    insertComment text
    done
  | .doctype _ => done
  | .startTag tag =>
    if tag.name = "html" then startInBody tag
    else if tag.name = "col" then
      insertEmpty tag
      done
    else if tag.name = "template" then startInHead tag
    else leave
  | .endTag name =>
    if name = "colgroup" then
      if (← get).currentIn ["colgroup"] then
        pop
        enter .inTable
      done
    else if name = "col" then done
    else if name = "template" then endTemplate
    else leave
  | .endOfPage => inBody token

/-- A token in a body of a table. -/
def inTableBody (token : Token) : Build Outcome := do
  let leave : Build Outcome := do
    if (← get).inTableScope ["tbody", "thead", "tfoot"] then
      clearToTableBody
      pop
      again .inTable
    else done
  match token with
  | .startTag tag =>
    match tag.name with
    | "tr" =>
      clearToTableBody
      openTag tag
      enter .inRow
      done
    | "th" | "td" =>
      clearToTableBody
      openName "tr"
      again .inRow
    | "caption" | "col" | "colgroup" | "tbody" | "tfoot" | "thead" => leave
    | _ => inTable token
  | .endTag name =>
    if ["tbody", "tfoot", "thead"].contains name then
      if (← get).inTableScope [name] then
        clearToTableBody
        pop
        enter .inTable
      done
    else if name = "table" then leave
    else if ["body", "caption", "col", "colgroup", "html", "td", "th", "tr"].contains name then done
    else inTable token
  | _ => inTable token

/-- A token in a row. -/
def inRow (token : Token) : Build Outcome := do
  let closeRow : Build Bool := do
    if (← get).inTableScope ["tr"] then
      clearToRow
      pop
      enter .inTableBody
      return true
    else return false
  match token with
  | .startTag tag =>
    match tag.name with
    | "th" | "td" =>
      clearToRow
      openTag tag
      enter .inCell
      pushBorder
      done
    | "caption" | "col" | "colgroup" | "tbody" | "tfoot" | "thead" | "tr" =>
      if ← closeRow then return .again else done
    | _ => inTable token
  | .endTag name =>
    if name = "tr" then
      discard closeRow
      done
    else if name = "table" then
      if ← closeRow then return .again else done
    else if ["tbody", "tfoot", "thead"].contains name then
      if (← get).inTableScope [name] then
        if ← closeRow then return .again else done
      else done
    else if ["body", "caption", "col", "colgroup", "html", "td", "th"].contains name then done
    else inTable token
  | _ => inTable token

/-- A token in a cell. -/
def inCell (token : Token) : Build Outcome := do
  let closeCell : Build Unit := do
    popImplied
    popThrough ["td", "th"]
    clearFormatting
    enter .inRow
  match token with
  | .startTag tag =>
    if tablePartNames.contains tag.name then
      if (← get).inTableScope ["td", "th"] then
        closeCell
        return .again
      else done
    else inBody token
  | .endTag name =>
    if name = "td" || name = "th" then
      if (← get).inTableScope [name] then
        popImplied
        popThrough [name]
        clearFormatting
        enter .inRow
      done
    else if ["body", "caption", "col", "colgroup", "html"].contains name then done
    else if ["table", "tbody", "tfoot", "thead", "tr"].contains name then
      if (← get).inTableScope [name] then
        closeCell
        return .again
      else done
    else inBody token
  | _ => inBody token

/-- A token in a template. -/
def inTemplate (token : Token) : Build Outcome := do
  let become (mode : Mode) : Build Outcome := do
    modify fun b => { b with templateModes := mode :: b.templateModes.drop 1 }
    again mode
  match token with
  | .startTag tag =>
    if headStartNames.contains tag.name then startInHead tag
    else
      match tag.name with
      | "caption" | "colgroup" | "tbody" | "tfoot" | "thead" => become .inTable
      | "col" => become .inColumnGroup
      | "tr" => become .inTableBody
      | "td" | "th" => become .inRow
      | _ => become .inBody
  | .endTag name => if name = "template" then endTemplate else done
  | .endOfPage => endOfPageInTemplate
  | token => inBody token

end Almanac.Html.Rules
