/-!
# Why an address cannot be read
-/

namespace Almanac.Url

/-- Why an address cannot be read. -/
inductive Error where
  | emptyHost
  | invalidDomain
  | invalidDomainCharacter
  | invalidPort
  | invalidIpv4
  | invalidIpv6
  /-- The address has no scheme and there is none to take it from. -/
  | noBase
  /-- The address that it is read against has no path to go on from. -/
  | opaqueBase
  deriving Repr, DecidableEq, Inhabited

/-- The text of an error. -/
def Error.message : Error → String
  | emptyHost => "empty host"
  | invalidDomain => "invalid international domain name"
  | invalidDomainCharacter => "invalid domain character"
  | invalidPort => "invalid port number"
  | invalidIpv4 => "invalid IPv4 address"
  | invalidIpv6 => "invalid IPv6 address"
  | noBase => "relative URL without a base"
  | opaqueBase => "relative URL with a cannot-be-a-base base"

end Almanac.Url
