import Almanac.Text.Case
import Almanac.Url.Address
import Almanac.Url.Error
import Almanac.Url.Punycode

/-!
# Hosts of addresses

A host is a domain name or a numeric address. Domain names are written in small letters
and in the first 128 characters alone.
-/

namespace Almanac.Url

open Almanac.Text

/-- The host of an address. -/
inductive Host where
  /-- A domain name, which may be empty. -/
  | domain (name : List Char)
  /-- An address of four bytes. -/
  | ipv4 (number : Nat)
  /-- An address of eight words. -/
  | ipv6 (words : List Nat)
  deriving Repr, DecidableEq, Inhabited

namespace Host

/-- A host in an address. -/
def text : Host → List Char
  | domain name => name
  | ipv4 number => ipv4Text number
  | ipv6 words => '[' :: ipv6Text words ++ [']']

end Host

/-! ## Domain names -/

/-- Characters that a domain name does not show: the soft hyphen, joiners of words and
selectors of variants. -/
def isHidden (c : Char) : Bool :=
  let n := c.toNat
  n = 0xad || n = 0x200b || n = 0x2060 || n = 0x2064 || n = 0xfeff || (0x180b ≤ n && n ≤ 0x180d) ||
    (0xfe00 ≤ n && n ≤ 0xfe0f)

/-- The characters that a character stands for in a domain name. -/
def domainChars (c : Char) : List Char :=
  let n := c.toNat
  if n < 128 then [asciiLower c]
  else if isHidden c then []
  else if n = 0x3002 || n = 0xff0e || n = 0xff61 then ['.']
  else if 0xff01 ≤ n && n ≤ 0xff5e then [asciiLower (Char.ofNat (n - 0xfee0))]
  else if n = 0x17f then ['s']
  else if n = 0x1e9e then ['ß']
  else if isBlank c then [' ']
  else lower c

/-- Characters of the first 128 that cannot stand in a domain name. -/
def isForbidden (c : Char) : Bool :=
  c.toNat ≤ 32 || c.toNat = 127 || "%#/:<>?@[\\]^|".toList.contains c

/-- Whether a character behind the first 128 cannot stand in a domain name. -/
def isDisallowed (c : Char) : Bool :=
  let n := c.toNat
  (128 ≤ n && n < 160) || n = 0xfffd || n = 0x200c || n = 0x200d || (0x200e ≤ n && n ≤ 0x200f) ||
    (0x2028 ≤ n && n ≤ 0x202e) || (0xe000 ≤ n && n ≤ 0xf8ff) || n ≥ 0xe0000 ||
    n % 0x10000 ≥ 0xfffe || (0xfdd0 ≤ n && n ≤ 0xfdef)

/-- Whether a label can be the label of a domain name. -/
def isLabel (label : List Char) : Bool :=
  label.all (fun c => !isDisallowed c) &&
    !(label.head?.any fun c => Table.mark.contains c.toNat)

/-- A label in the first 128 characters. -/
def basicLabel? (label : List Char) : Option (List Char) :=
  match label with
  | 'x' :: 'n' :: '-' :: '-' :: code => do
    let decoded ← Punycode.decode? code
    if decoded.all (·.toNat < 128) || decoded.flatMap domainChars != decoded || !isLabel decoded ||
        Punycode.encode decoded != code then none
    else some label
  | label =>
    if label.all (·.toNat < 128) then some label
    else if isLabel label then some ("xn--".toList ++ Punycode.encode label)
    else none

/-- A domain name in small letters and the first 128 characters. -/
def domain? (cs : List Char) : Option (List Char) := do
  let labels ← (splitAll ['.'] (cs.flatMap domainChars)).mapM basicLabel?
  let name := ['.'].intercalate labels
  if name.any isForbidden then none else some name

/-! ## Reading hosts -/

/-- The host in brackets, if there are brackets. -/
def readBracketed (cs : List Char) : Option (Except Error Host) :=
  match cs with
  | '[' :: rest =>
    some <|
      if rest.getLast? = some ']' then
        match ipv6? rest.dropLast with
        | some words => .ok (.ipv6 words)
        | none => .error .invalidIpv6
      else .error .invalidIpv6
  | _ => none

/-- The host of an address whose scheme is well known. -/
def Host.read (cs : List Char) : Except Error Host :=
  (readBracketed cs).getD <|
    match domain? (Utf8.decode (percentDecode cs)) with
    | none => .error .invalidDomain
    | some [] => .error .emptyHost
    | some name =>
      if endsInNumber name then
        match ipv4? name with
        | some number => .ok (.ipv4 number)
        | none => .error .invalidIpv4
      else .ok (.domain name)

/-- Characters that cannot stand in the host of an address with an unknown scheme. -/
def isInvalidHostChar (c : Char) : Bool := "\x00\t\n\r #/:<>?@[\\]^|".toList.contains c

/-- The host of an address with an unknown scheme, which may be empty. -/
def Host.readOpaque (cs : List Char) : Except Error Host :=
  (readBracketed cs).getD <|
    if cs.any isInvalidHostChar then .error .invalidDomainCharacter
    else .ok (.domain (percentEncode [] cs))

end Almanac.Url
