import Almanac.Url.Host

/-!
# Addresses of pages

An address is a scheme and what the scheme leads to: a host with a path on it, or a
path alone, then a query and a fragment. An address without a host whose path does
not begin with a slash is opaque: nothing can be read against it.
-/

namespace Almanac

/-- The address of a page. -/
structure Url where
  scheme : List Char
  username : List Char := []
  password : Option (List Char) := none
  /-- The host, which may be an empty name; none if there is no place for one. -/
  host : Option Url.Host := none
  port : Option Nat := none
  path : List Char := []
  query : Option (List Char) := none
  fragment : Option (List Char) := none
  deriving Repr, DecidableEq, Inhabited

namespace Url

/-! ## Schemes -/

/-- The kinds of schemes, by how their addresses are read. -/
inductive SchemeKind where
  | file
  /-- A well-known scheme with hosts. -/
  | special
  | other
  deriving Repr, DecidableEq, Inhabited

/-- The well-known schemes and their ports. -/
def specialPorts : List (List Char × Nat) := [
  ("http".toList, 80), ("https".toList, 443), ("ws".toList, 80), ("wss".toList, 443),
  ("ftp".toList, 21)]

/-- The kind of a scheme. -/
def SchemeKind.of (scheme : List Char) : SchemeKind :=
  if scheme = "file".toList then .file
  else if (specialPorts.lookup scheme).isSome then .special
  else .other

/-- The kind of the scheme of an address. -/
def kind (u : Url) : SchemeKind := SchemeKind.of u.scheme

/-- Whether nothing can be read against the address. -/
def isOpaque (u : Url) : Bool := u.host.isNone && u.path.head? != some '/'

/-! ## Text -/

/-- The user and the password in front of a host. -/
def credentials (u : Url) : List Char :=
  let password := u.password.elim [] (':' :: ·)
  if u.username.isEmpty && u.password.isNone then [] else u.username ++ password ++ ['@']

/-- What stands between the scheme and the path. A path that begins with two slashes is
kept from being taken for a host. -/
def authority (u : Url) : List Char :=
  match u.host with
  | some host =>
    '/' :: '/' :: u.credentials ++ host.text ++
      u.port.elim [] (fun port => ':' :: Number.digits port)
  | none => if ['/', '/'].isPrefixOf u.path then ['/', '.'] else []

/-- The characters of an address. -/
def chars (u : Url) : List Char :=
  u.scheme ++ ':' :: u.authority ++ u.path ++ u.query.elim [] ('?' :: ·) ++
    u.fragment.elim [] ('#' :: ·)

/-- The text of an address. -/
def text (u : Url) : String := String.ofList u.chars

end Url

end Almanac
