import Almanac.Url.Path

/-!
# Reading addresses

An address is read by itself or against another address, from which it takes what it
leaves out: the scheme, the host, the front of the path. Control characters and spaces
at its ends, and tabs and line ends anywhere, are passed over.
-/

namespace Almanac.Url

open Almanac.Text

/-- An address or the reason why there is none. -/
abbrev Result : Type := Except Error Url

/-! ## Parts -/

/-- The characters that count. -/
def relevant (s : String) : List Char :=
  let isEdge (c : Char) : Bool := c.toNat ≤ 32
  ((s.toList.dropWhile isEdge).reverse.dropWhile isEdge).reverse.filter fun c =>
    c != '\t' && c != '\n' && c != '\r'

/-- The scheme in front of a colon, in small letters, and what is behind it. -/
def splitScheme (cs : List Char) : Option (List Char × List Char) :=
  let isSchemeChar (c : Char) : Bool :=
    isAsciiLetter c || isAsciiDigit c || c == '+' || c == '-' || c == '.'
  match cs.dropWhile isSchemeChar with
  | ':' :: rest =>
    if cs.head?.any isAsciiLetter then some ((cs.takeWhile isSchemeChar).map asciiLower, rest)
    else none
  | _ => none

/-- Whether a character ends the path. -/
def endsPath (c : Char) : Bool := c == '?' || c == '#'

/-- The path and what is behind it. -/
def splitPath (cs : List Char) : List Char × List Char :=
  (cs.takeWhile (!endsPath ·), cs.dropWhile (!endsPath ·))

/-- The fragment behind its sign. -/
def readFragment (cs : List Char) : List Char := percentEncode fragmentSpecial cs

/-- Puts the query and the fragment into an address. -/
def withTail (u : Url) (cs : List Char) : Url :=
  match cs with
  | '?' :: rest =>
    let special := if u.kind = .other then querySpecial else '\'' :: querySpecial
    let query := percentEncode special (rest.takeWhile (· != '#'))
    match rest.dropWhile (· != '#') with
    | '#' :: fragment => { u with query := some query, fragment := some (readFragment fragment) }
    | _ => { u with query := some query, fragment := none }
  | '#' :: fragment => { u with query := none, fragment := some (readFragment fragment) }
  | _ => { u with query := none, fragment := none }

/-- Puts a path that goes on from another, and what is behind it, into an address. -/
def withPath (u : Url) (path cs : List Char) : Url :=
  let (front, tail) := splitPath cs
  withTail { u with path := (OpenPath.extend u.kind path front).path } tail

/-! ## Authorities -/

/-- Whether a character ends the authority. -/
def endsAuthority (kind : SchemeKind) (c : Char) : Bool :=
  c == '/' || c == '?' || c == '#' || (kind != .other && c == '\\')

/-- The user name and the password in front of the last at sign. A password that is
empty is left out. -/
def readCredentials (cs : List Char) : List Char × Option (List Char) :=
  let name := percentEncode userSpecial (cs.takeWhile (· != ':'))
  match cs.dropWhile (· != ':') with
  | ':' :: c :: rest => (name, some (percentEncode userSpecial (c :: rest)))
  | _ => (name, none)

/-- The host in front of its port or the end; a colon in brackets belongs to it. -/
def takeHost (bracketed : Bool) : List Char → List Char × List Char
  | [] => ([], [])
  | c :: rest =>
    if c = ':' && !bracketed then ([], c :: rest)
    else
      let bracketed := if c = '[' then true else if c = ']' then false else bracketed
      let (host, tail) := takeHost bracketed rest
      (c :: host, tail)

/-- The port behind its colon; the usual port of the scheme is left out. -/
def readPort (scheme cs : List Char) : Except Error (Option Nat) :=
  let port := Number.value cs
  if !cs.all isAsciiDigit then .error .invalidPort
  else if cs.isEmpty then .ok none
  else if port > 65535 then .error .invalidPort
  else .ok (if specialPorts.lookup scheme = some port then none else some port)

/-- The digits at the front of a port that has another character must be within range
too, but any fault in a port is the same. -/
def readHostAndPort (kind : SchemeKind) (scheme cs : List Char) :
    Except Error (Host × Option Nat) := do
  let (hostChars, tail) := takeHost false cs
  if kind = .special && hostChars.isEmpty then throw .emptyHost
  let host ← if kind = .other then Host.readOpaque hostChars else Host.read hostChars
  match tail with
  | ':' :: port =>
    if host = .domain [] then throw .emptyHost
    let port ← readPort scheme port
    return (host, port)
  | _ => return (host, none)

/-- An address from its authority on. -/
def readAuthority (scheme cs : List Char) : Result := do
  let kind := SchemeKind.of scheme
  let authority := cs.takeWhile (!endsAuthority kind ·)
  let behind := cs.dropWhile (!endsAuthority kind ·)
  let (before, after) :=
    match splitLast ['@'] authority with
    | some (before, after) => (some before, after)
    | none => (none, authority)
  if before = some [] && after.isEmpty && !behind.isEmpty then throw .emptyHost
  let (username, password) := (before.map readCredentials).getD ([], none)
  let (host, port) ← readHostAndPort kind scheme after
  if host = .domain [] && !(username.isEmpty && password.isNone) then throw .emptyHost
  let (path, tail) := splitPath behind
  return withTail
    { scheme, username, password, host := some host, port,
      path := (OpenPath.behindHost kind path).path } tail

/-! ## Files -/

/-- An empty host. -/
def noHost : Host := .domain []

/-- The address of a file from its host on. -/
def readFileHost (cs : List Char) : Result := do
  let isEnd (c : Char) : Bool := c == '/' || c == '\\' || c == '?' || c == '#'
  let name := cs.takeWhile (!isEnd ·)
  let host ← if name.isEmpty || isDrive name then pure noHost else Host.read name
  let behind := if isDrive name then cs else cs.dropWhile (!isEnd ·)
  let scheme := "file".toList
  let (path, tail) := splitPath behind
  if host = noHost || host = .domain "localhost".toList then
    return withTail
      { scheme, host := some noHost, path := (OpenPath.extend .file ['/'] path).path } tail
  else
    let p := OpenPath.behindHost .file path
    return withTail
      { scheme, host := some (if p.dropsHost then noHost else host), path := p.path } tail

/-- The address of a file without its query and fragment, before anything is read. -/
def bareFile : Url := { scheme := "file".toList, host := some noHost }

/-- The address of a file whose path begins with one slash: the host and the drive are
those of the address it is read against. -/
def readFileRoot (base : Option Url) (cs : List Char) : Url :=
  let start : Url :=
    if beginsWithDrive (cs.drop 1) then bareFile
    else
      match base with
      | none => bareFile
      | some base =>
        let drive := (base.path.drop 1).takeWhile (· != '/')
        if isSettledDrive drive then { bareFile with path := '/' :: drive }
        else { bareFile with host := base.host }
  withPath start start.path cs

/-- The address of a file behind its scheme, or without one. -/
def readFile (base : Option Url) (cs : List Char) : Result :=
  match cs with
  | a :: b :: rest =>
    if (a = '/' || a = '\\') && (b = '/' || b = '\\') then readFileHost rest
    else .ok (single (a :: b :: rest))
  | cs => .ok (single cs)
where
  /-- The address of a file that does not begin with two slashes. -/
  single (cs : List Char) : Url :=
    match cs.head?, base with
    | some '/', _ | some '\\', _ => readFileRoot base cs
    | none, some base => { base with fragment := none }
    | some '?', some base => withTail base cs
    | some '#', some base => { base with fragment := some (readFragment (cs.drop 1)) }
    | some _, some base =>
      if beginsWithDrive cs then withPath bareFile ['/'] cs
      else withPath base (dropSegment .file base.path) cs
    | _, none => withPath bareFile ['/'] cs

/-! ## Addresses -/

/-- The slashes and backslashes at the front. -/
def isSlash (c : Char) : Bool := c == '/' || c == '\\'

/-- An address without a scheme, read against another that is not that of a file. -/
def readRelative (base : Url) (cs : List Char) : Result :=
  match cs with
  | [] => .ok { base with fragment := none }
  | '?' :: _ => .ok (withTail base cs)
  | '#' :: fragment => .ok { base with fragment := some (readFragment fragment) }
  | c :: rest =>
    if isSlash c then
      if rest.head?.any isSlash then
        match cs with
        | '/' :: '/' :: behind => readAuthority base.scheme behind
        | cs => readAuthority base.scheme (cs.dropWhile isSlash)
      else .ok (withPath base ['/'] rest)
    else
      let path := dropSegment base.kind base.path
      .ok (withPath base (if path.isEmpty then ['/'] else path) cs)

/-- An address behind its scheme. -/
def readWithScheme (base : Option Url) (scheme cs : List Char) : Result :=
  match SchemeKind.of scheme with
  | .file => readFile (base.filter (·.kind = .file)) cs
  | .special =>
    let authority := readAuthority scheme (cs.dropWhile isSlash)
    match base with
    | some base =>
      if (cs.takeWhile isSlash).length < 2 && base.scheme = scheme then readRelative base cs
      else authority
    | none => authority
  | .other =>
    match cs with
    | '/' :: '/' :: behind => readAuthority scheme behind
    | '/' :: rest => .ok (withPath { scheme } ['/'] rest)
    | cs =>
      let (path, tail) := splitPath cs
      .ok (withTail { scheme, path := percentEncode [] path } tail)

/-- The address with a text, read against another if there is one. -/
def read (base : Option Url) (text : String) : Result :=
  let cs := relevant text
  match splitScheme cs, base with
  | some (scheme, rest), _ => readWithScheme base scheme rest
  | none, none => .error .noBase
  | none, some base =>
    match cs with
    | '#' :: fragment => .ok { base with fragment := some (readFragment fragment) }
    | cs =>
      if base.isOpaque then .error .opaqueBase
      else if base.kind = .file then readFile (some base) cs
      else readRelative base cs

/-- The address with a text of its own. -/
def ofText (text : String) : Result := read none text

/-- The address that a text stands for on the page at `base`. -/
def join (base : Url) (text : String) : Result := read (some base) text

end Almanac.Url
