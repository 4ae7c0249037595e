import Almanac.Html.Reference
import Almanac.Html.Token
import Almanac.Text.Case
import Almanac.Text.Search

/-!
# Cutting a page into tokens

`Scanner.next` cuts the next tokens off the front of the text of a page. What
counts as markup depends on the element that the text stands in: inside a title
only references and the matching end tag do, inside a style sheet only the end
tag, and inside a script only an end tag that is not commented away.
-/

namespace Almanac.Html

open Almanac.Text

/-! ## Characters -/

/-- The white space that separates the parts of a tag. -/
def isTagBlank (c : Char) : Bool := c == ' ' || c == '\n' || c == '\t' || c == '\x0c' || c == '\r'

/-- Whether a tag's name ends at a character. -/
def endsTagName (c : Char) : Bool := isTagBlank c || c == '/' || c == '>'

/-- Whether an attribute's name ends at a character. -/
def endsAttributeName (c : Char) : Bool := endsTagName c || c == '='

/-- A character of a name or comment; the null character cannot be one. -/
def visible (c : Char) : Char := if c = '\x00' then replacement else c

/-- The text of a name, in small Latin letters. -/
def nameOf (cs : List Char) : String := String.ofList (cs.map fun c => asciiLower (visible c))

/-- The text with its line ends all made line feeds. -/
def normalizeLineEnds : List Char → List Char
  | '\r' :: '\n' :: rest => '\n' :: normalizeLineEnds rest
  | '\r' :: rest => '\n' :: normalizeLineEnds rest
  | c :: rest => c :: normalizeLineEnds rest
  | [] => []

/-- What follows `word` at the front of the characters, in any Latin case. -/
def dropWord? (word : String) (cs : List Char) : Option (List Char) :=
  let n := word.toList.length
  if (cs.take n).map asciiLower == word.toList.map asciiLower then some (cs.drop n) else none

/-! ## Tags -/

/-- The value of an attribute behind its name, empty when there is none. -/
def takeValue (cs : List Char) : List Char × List Char :=
  match cs.dropWhile isTagBlank with
  | '=' :: rest =>
    match rest.dropWhile isTagBlank with
    | '"' :: quoted => (quoted.takeWhile (· != '"'), (quoted.dropWhile (· != '"')).drop 1)
    | '\'' :: quoted => (quoted.takeWhile (· != '\''), (quoted.dropWhile (· != '\'')).drop 1)
    | bare =>
      (bare.takeWhile fun c => !isTagBlank c && c != '>',
        bare.dropWhile fun c => !isTagBlank c && c != '>')
  | rest => ([], rest)

theorem length_takeValue_le (cs : List Char) : (takeValue cs).2.length ≤ cs.length := by
  unfold takeValue
  have h1 := length_dropWhile_le isTagBlank cs
  split
  · next rest heq =>
    rw [heq] at h1
    have h2 := length_dropWhile_le isTagBlank rest
    split
    · next q heq' =>
      rw [heq'] at h2
      have h3 := length_dropWhile_le (· != '"') q
      simp only [List.length_cons, List.length_drop] at *
      omega
    · next q heq' =>
      rw [heq'] at h2
      have h3 := length_dropWhile_le (· != '\'') q
      simp only [List.length_cons, List.length_drop] at *
      omega
    · have h3 := length_dropWhile_le (fun c => !isTagBlank c && c != '>')
        (rest.dropWhile isTagBlank)
      simp only [List.length_cons] at *
      omega
  · exact h1

/-- The attributes up to the end of a tag, whether the tag closes itself, and the
text after it; nothing when the tag is never ended. -/
def takeAttributes (cs : List Char) : Option (List Attribute × Bool × List Char) :=
  match _h : cs.dropWhile isTagBlank with
  | [] => none
  | '>' :: rest => some ([], false, rest)
  | '/' :: '>' :: rest => some ([], true, rest)
  | '/' :: rest => takeAttributes rest
  | c :: rest =>
    let name := c :: rest.takeWhile (!endsAttributeName ·)
    let behind := takeValue (rest.dropWhile (!endsAttributeName ·))
    (takeAttributes behind.2).map fun (more, closing, after) =>
      (⟨nameOf name, String.ofList (expandReferences behind.1)⟩ :: more, closing, after)
termination_by cs.length
decreasing_by
  · have h1 := length_dropWhile_le isTagBlank cs
    rw [_h] at h1
    simp only [List.length_cons] at h1
    omega
  · have h1 := length_dropWhile_le isTagBlank cs
    rw [_h] at h1
    have h2 := length_takeValue_le (rest.dropWhile (!endsAttributeName ·))
    have h3 := length_dropWhile_le (!endsAttributeName ·) rest
    simp only [List.length_cons] at h1
    omega

/-- Attributes without those whose name an earlier one has. -/
def dropRepeatedNames (attributes : List Attribute) : List Attribute :=
  (attributes.foldl (fun kept a => if kept.any (·.name == a.name) then kept else a :: kept)
    []).reverse

/-- The start tag whose name begins the characters; nothing when it is never
ended. -/
def takeStartTag (cs : List Char) : Option (StartTag × List Char) :=
  (takeAttributes (cs.dropWhile (!endsTagName ·))).map fun (attributes, closing, rest) =>
    (⟨nameOf (cs.takeWhile (!endsTagName ·)), dropRepeatedNames attributes, closing⟩, rest)

/-- The end tag whose name begins the characters; nothing when it is never ended. -/
def takeEndTag (cs : List Char) : Option (String × List Char) :=
  (takeStartTag cs).map fun (tag, rest) => (tag.name, rest)

/-- What follows the start of the end tag of the element `name`, from the name on. -/
def matchingEndTag? (name : String) (cs : List Char) : Option (List Char) :=
  match cs with
  | '<' :: '/' :: rest =>
    match dropWord? name rest with
    | some (c :: _) => if endsTagName c then some rest else none
    | _ => none
  | _ => none

/-! ## Comments and declarations -/

/-- The text of a comment up to its end, and what follows the comment. -/
def takeCommentBody : List Char → List Char × List Char
  | '-' :: '-' :: '>' :: rest => ([], rest)
  | '-' :: '-' :: '!' :: '>' :: rest => ([], rest)
  | ['-', '-', '!'] | ['-', '-'] | ['-'] | [] => ([], [])
  | c :: rest =>
    let (body, after) := takeCommentBody rest
    (visible c :: body, after)

/-- A comment whose opening has been read. -/
def takeComment (cs : List Char) : Token × List Char :=
  match cs with
  | '>' :: rest => (.comment "", rest)
  | '-' :: '>' :: rest => (.comment "", rest)
  | cs =>
    let (body, rest) := takeCommentBody cs
    (.comment (String.ofList body), rest)

/-- What is no proper declaration is a comment up to the next closing bracket. -/
def takeBogusComment (cs : List Char) : Token × List Char :=
  (.comment (String.ofList ((cs.takeWhile (· != '>')).map visible)),
    (cs.dropWhile (· != '>')).drop 1)

/-- A text in quotes at the front of the characters: the text, whether its quote
is closed, and what follows. A closing bracket ends it as well. -/
def takeQuoted? (cs : List Char) : Option (String × Bool × List Char) :=
  match cs with
  | q :: rest =>
    if q = '"' || q = '\'' then
      let body := rest.takeWhile fun c => c != q && c != '>'
      match rest.dropWhile fun c => c != q && c != '>' with
      | c :: after =>
        some (String.ofList (body.map visible), c == q, if c = q then after else c :: after)
      | [] => some (String.ofList (body.map visible), false, [])
    else none
  | [] => none

/-- The text from the next closing bracket on, without it. -/
def dropDeclaration (cs : List Char) : List Char := (cs.dropWhile (· != '>')).drop 1

/-- The system identifier of a declaration and its end. -/
def takeSystemId (name publicId : Option String) (mayLack : Bool) (cs : List Char) :
    Doctype × List Char :=
  let cs := cs.dropWhile isTagBlank
  match takeQuoted? cs with
  | some (systemId, closed, rest) =>
    let ended := closed && rest.any (· == '>')
    (⟨name, publicId, some systemId, !ended⟩, dropDeclaration rest)
  | none =>
    (⟨name, publicId, none, !(mayLack && cs.head? == some '>')⟩, dropDeclaration cs)

/-- A document type declaration whose opening word has been read. -/
def takeDoctype (cs : List Char) : Doctype × List Char :=
  let cs := cs.dropWhile isTagBlank
  match cs with
  | [] => (⟨none, none, none, true⟩, [])
  | '>' :: rest => (⟨none, none, none, true⟩, rest)
  | cs =>
    let isEnd (c : Char) : Bool := isTagBlank c || c == '>'
    let name := some (nameOf (cs.takeWhile (!isEnd ·)))
    let rest := (cs.dropWhile (!isEnd ·)).dropWhile isTagBlank
    if rest.head? = some '>' then (⟨name, none, none, false⟩, rest.drop 1)
    else
      match dropWord? "public" rest with
      | some after =>
        match takeQuoted? (after.dropWhile isTagBlank) with
        | some (publicId, true, behind) => takeSystemId name (some publicId) true behind
        | some (publicId, false, behind) =>
          (⟨name, some publicId, none, true⟩, dropDeclaration behind)
        | none => (⟨name, none, none, true⟩, dropDeclaration after)
      | none =>
        match dropWord? "system" rest with
        | some after => takeSystemId name none false after
        | none => (⟨name, none, none, true⟩, dropDeclaration rest)

/-! ## Scripts -/

/-- How far a script hides its text from the page: not at all, in a comment, or in
a script inside a comment, with the number of dashes just read. -/
inductive ScriptState where
  | plain
  | hidden (dashes : Nat)
  | nested (dashes : Nat)
  deriving Repr, DecidableEq, Inhabited

/-- What follows a tag of the name script in a script, with the end of its name. -/
def dropScriptWord? (opening : List Char) (cs : List Char) : Option (List Char × List Char) :=
  if opening.isPrefixOf cs then
    match dropWord? "script" (cs.drop opening.length) with
    | some (c :: rest) =>
      if endsTagName c then some (cs.take (opening.length + 7), rest) else none
    | _ => none
  else none

/-- The next characters of a script, how they leave it, and the text after them. -/
def ScriptState.next (state : ScriptState) (c : Char) (rest : List Char) :
    List Char × ScriptState × List Char :=
  match state with
  | plain =>
    if ['<', '!', '-', '-'].isPrefixOf (c :: rest) then
      (['<', '!', '-', '-'], hidden 2, rest.drop 3)
    else ([c], plain, rest)
  | hidden dashes =>
    match dropScriptWord? ['<'] (c :: rest) with
    | some (taken, after) => (taken, nested 0, after)
    | none =>
      if c = '-' then ([c], hidden (dashes + 1), rest)
      else if c = '>' && dashes ≥ 2 then ([c], plain, rest)
      else ([c], hidden 0, rest)
  | nested dashes =>
    match dropScriptWord? ['<', '/'] (c :: rest) with
    | some (taken, after) => (taken, hidden 0, after)
    | none =>
      if c = '-' then ([c], nested (dashes + 1), rest)
      else if c = '>' && dashes ≥ 2 then ([c], plain, rest)
      else ([c], nested 0, rest)

/-! ## The scanner -/

/-- What counts as markup in the text to come. -/
inductive Scanner where
  /-- Everything. -/
  | data
  /-- References and the end tag of the element. -/
  | referencesOnly (element : String)
  /-- The end tag of the element. -/
  | endTagOnly (element : String)
  /-- The end tag of a script. -/
  | script (state : ScriptState)
  /-- Nothing. -/
  | nothing
  deriving Repr, DecidableEq, Inhabited

namespace Scanner

/-- The tokens that have been cut off, what counts as markup after them, and the
text left. -/
structure Cut where
  tokens : List Token
  scanner : Scanner
  rest : List Char

/-- The characters as tokens. -/
def chars (cs : List Char) : List Token := cs.map .char

/-- Cuts off what begins with an opening bracket, where everything is markup. -/
def nextMarkup (foreign : Bool) (rest : List Char) : Cut :=
  match rest with
  | '/' :: c :: after =>
    if isAsciiLetter c then
      match takeEndTag (c :: after) with
      | some (name, rest) => ⟨[.endTag name], data, rest⟩
      | none => ⟨[], data, []⟩
    else if c = '>' then ⟨[], data, after⟩
    else
      let (token, rest) := takeBogusComment (c :: after)
      ⟨[token], data, rest⟩
  | '!' :: '-' :: '-' :: after =>
    let (token, rest) := takeComment after
    ⟨[token], data, rest⟩
  | '!' :: after =>
    match dropWord? "doctype" after with
    | some cs =>
      let (declaration, rest) := takeDoctype cs
      ⟨[.doctype declaration], data, rest⟩
    | none =>
      if foreign && "[CDATA[".toList.isPrefixOf after then
        let body := after.drop 7
        match splitFirst "]]>".toList body with
        | some (text, rest) => ⟨chars text, data, rest⟩
        | none => ⟨chars body, data, []⟩
      else
        let (token, rest) := takeBogusComment after
        ⟨[token], data, rest⟩
  | '?' :: after =>
    let (token, rest) := takeBogusComment ('?' :: after)
    ⟨[token], data, rest⟩
  | c :: after =>
    if isAsciiLetter c then
      match takeStartTag (c :: after) with
      | some (tag, rest) => ⟨[.startTag tag], data, rest⟩
      | none => ⟨[], data, []⟩
    else ⟨[.char '<'], data, rest⟩
  | [] => ⟨[.char '<'], data, []⟩

/-- Cuts off the next tokens of the text `c :: rest`; `foreign` says whether it
stands in an element that is not one of the page's own language. -/
def next (scanner : Scanner) (foreign : Bool) (c : Char) (rest : List Char) : Cut :=
  match scanner with
  | data =>
    if c = '<' then nextMarkup foreign rest
    else if c = '&' then
      let (taken, after) := takeReference false rest
      ⟨chars taken, data, after⟩
    else ⟨[.char c], data, rest⟩
  | referencesOnly element =>
    match matchingEndTag? element (c :: rest) with
    | some tag => closing tag
    | none =>
      if c = '&' then
        let (taken, after) := takeReference false rest
        ⟨chars taken, scanner, after⟩
      else ⟨[.char (visible c)], scanner, rest⟩
  | endTagOnly element =>
    match matchingEndTag? element (c :: rest) with
    | some tag => closing tag
    | none => ⟨[.char (visible c)], scanner, rest⟩
  | script state =>
    let hiddenTwice : Bool := match state with | .nested _ => true | _ => false
    match if hiddenTwice then none else matchingEndTag? "script" (c :: rest) with
    | some tag => closing tag
    | none =>
      let (taken, state, after) := state.next c rest
      ⟨chars (taken.map visible), script state, after⟩
  | nothing => ⟨[.char (visible c)], nothing, rest⟩
where
  /-- An end tag, behind which everything is markup again. -/
  closing (tag : List Char) : Cut :=
    match takeEndTag tag with
    | some (name, rest) => ⟨[.endTag name], data, rest⟩
    | none => ⟨[], data, []⟩

end Scanner

end Almanac.Html
