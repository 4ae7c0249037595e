import Almanac.Url.Basic

/-!
# Paths of addresses

A path is read segment by segment and added to the path it goes on from. A segment of
one dot stays where it is, one of two dots goes back to the segment before. In the path
of a file, a letter and a colon name a drive, which is never left.
-/

namespace Almanac.Url

open Almanac.Text

/-! ## Drives -/

/-- Whether a segment ends here or with this character. -/
def endsSegment (cs : List Char) : Bool :=
  match cs with
  | [] => true
  | c :: _ => c = '/' || c = '\\' || c = '?' || c = '#'

/-- Whether the characters begin with a segment that names a drive. -/
def beginsWithDrive (cs : List Char) : Bool :=
  match cs with
  | a :: b :: rest => isAsciiLetter a && (b = ':' || b = '|') && endsSegment rest
  | _ => false

/-- Whether a segment names a drive. -/
def isDrive (segment : List Char) : Bool := segment.length = 2 && beginsWithDrive segment

/-- Whether a segment names a drive with a colon. -/
def isSettledDrive (segment : List Char) : Bool :=
  isDrive segment && segment.getLast? = some ':'

/-! ## Going back -/

/-- The path up to its last slash and the segment behind it. -/
def splitLastSegment (path : List Char) : List Char × List Char :=
  let segment := (path.reverse.takeWhile (· != '/')).reverse
  (path.take (path.length - segment.length), segment)

/-- The path without its last segment, which stays if it is a drive. -/
def dropSegment (kind : SchemeKind) (path : List Char) : List Char :=
  let (front, segment) := splitLastSegment path
  if kind = .file && isSettledDrive segment then path else front

/-- Whether the slash at the end of a path can be dropped: it is neither the only one
nor the one behind a drive. -/
def canDropSlash (path : List Char) : Bool :=
  let (front, segment) := splitLastSegment path.dropLast
  !front.isEmpty && !beginsWithDrive (segment ++ ['/'])

/-- The path one segment back, with a slash at the end if more is to come. -/
def goBack (kind : SchemeKind) (more : Bool) (path : List Char) : List Char :=
  let path := if path.getLast? = some '/' && canDropSlash path then path.dropLast else path
  let path := dropSegment kind path
  if more && path.getLast? != some '/' then path ++ ['/'] else path

/-! ## Adding segments -/

/-- Two dots, either of which may be written as a byte. -/
def isDoubleDot (segment : List Char) : Bool :=
  [['.', '.'], "%2e%2e".toList, "%2e.".toList, ".%2e".toList].contains (segment.map asciiLower)

/-- One dot, which may be written as a byte. -/
def isSingleDot (segment : List Char) : Bool :=
  [['.'], "%2e".toList].contains (segment.map asciiLower)

/-- A path while it is read, and whether its drive takes the place of the host. -/
structure OpenPath where
  path : List Char
  dropsHost : Bool := false
  deriving Repr, DecidableEq, Inhabited

/-- Adds a segment; `more` says that a slash stands behind it. -/
def addSegment (kind : SchemeKind) (p : OpenPath) (segment : List Char) (more : Bool) : OpenPath :=
  let slash := if more then ['/'] else []
  let segment := percentEncode pathSpecial segment
  if isDoubleDot segment then { p with path := goBack kind more p.path }
  else if isSingleDot segment then
    if p.path.getLast? = some '/' then p else { p with path := p.path ++ ['/'] }
  else if kind = .file && p.path = ['/'] && isDrive segment then
    { path := p.path ++ segment.take 1 ++ [':'] ++ slash, dropsHost := true }
  else if kind = .file && !segment.isEmpty && isSettledDrive (p.path.drop 1) then
    { p with path := p.path ++ ['/'] ++ segment ++ slash }
  else { p with path := p.path ++ segment ++ slash }

/-- Adds segments, behind all but the last of which a slash stands. -/
def addSegments (kind : SchemeKind) (p : OpenPath) : List (List Char) → OpenPath
  | [] => p
  | [segment] => addSegment kind p segment false
  | segment :: rest => addSegments kind (addSegment kind p segment true) rest

/-- The segments between slashes; for well-known schemes a backslash is one too. -/
def segments (kind : SchemeKind) (cs : List Char) : List (List Char) :=
  splitAll ['/'] (if kind = .other then cs else cs.map fun c => if c = '\\' then '/' else c)

/-- Adds the segments of characters to a path; that of a file begins with one slash. -/
def OpenPath.extend (kind : SchemeKind) (path cs : List Char) : OpenPath :=
  let p := addSegments kind { path } (segments kind cs)
  if kind = .file then { p with path := '/' :: p.path.dropWhile (· == '/') } else p

/-- The path behind a host, which for well-known schemes is never empty. -/
def OpenPath.behindHost (kind : SchemeKind) (cs : List Char) : OpenPath :=
  if kind = .other then
    if cs.isEmpty then { path := [] } else OpenPath.extend kind [] cs
  else
    match cs with
    | [] => OpenPath.extend kind ['/'] []
    | c :: rest =>
      OpenPath.extend kind ['/'] (if c = '/' || c = '\\' then rest else c :: rest)

end Almanac.Url
