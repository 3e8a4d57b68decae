import FilterPrep.Idna.Domain
import FilterPrep.Url.Ipv4
import FilterPrep.Url.Ipv6
import FilterPrep.Url.Percent

/-!
# Hosts

The host of an address is an IP address or a name. Special schemes have domain names; the names of
other schemes are kept as they stand.
-/

namespace FilterPrep.Url

inductive ParseError where
  | emptyHost
  | invalidDomain
  | invalidPort
  | invalidIpv4
  | invalidIpv6
  | invalidHostCharacter
  | relativeWithoutBase
  deriving DecidableEq, Repr

def ParseError.message : ParseError → Text
  | emptyHost => "EmptyHost: empty host".toList
  | invalidDomain => "IdnaError: invalid international domain name".toList
  | invalidPort => "InvalidPort: invalid port number".toList
  | invalidIpv4 => "InvalidIpv4Address: invalid IPv4 address".toList
  | invalidIpv6 => "InvalidIpv6Address: invalid IPv6 address".toList
  | invalidHostCharacter => "InvalidDomainCharacter: invalid domain character".toList
  | relativeWithoutBase => "RelativeUrlWithoutBase: relative URL without a base".toList

inductive Host where
  /-- A name; it is empty when an address has no host. -/
  | name (name : Text)
  | ipv4 (address : Nat)
  | ipv6 (pieces : List Nat)
  deriving DecidableEq, Repr

namespace Host

def render : Host → Text
  | .name text => text
  | .ipv4 address => Ipv4.render address
  | .ipv6 pieces => '[' :: Ipv6.render pieces ++ [']']

def isEmpty (host : Host) : Bool := host == .name []

/-- Reads an IPv6 address with its opening bracket taken off. -/
def ofBracketed (t : Text) : Except ParseError Host :=
  if t.getLast? = some ']' then
    match Ipv6.pieces? t.dropLast with
    | some pieces => .ok (.ipv6 pieces)
    | none => .error .invalidIpv6
  else .error .invalidIpv6

/-- Reads the host of a special scheme. -/
def ofDomain : Text → Except ParseError Host
  | '[' :: t => ofBracketed t
  | t =>
    match Idna.toAscii? (Percent.decode t) with
    | none => .error .invalidDomain
    | some [] => .error .emptyHost
    | some domain =>
      if Ipv4.endsInNumber domain then
        match Ipv4.address? domain with
        | some address => .ok (.ipv4 address)
        | none => .error .invalidIpv4
      else .ok (.name domain)

/-- What a host name of another scheme must not hold. -/
def isInvalidChar (c : Char) : Bool := "\x00\t\n\r #/:<>?@[\\]^|".toList.contains c

/-- Reads the host of a scheme that is not special. -/
def ofOther : Text → Except ParseError Host
  | '[' :: t => ofBracketed t
  | t =>
    if t.any isInvalidChar then .error .invalidHostCharacter
    else .ok (.name (Percent.encode Percent.controls t))

end Host

end FilterPrep.Url
