import SearchLink.Text.Percent
import SearchLink.Text.Utf8
import SearchLink.Url.Domain
import SearchLink.Url.Ipv4
import SearchLink.Url.Ipv6

/-!
# `SearchLink.Url.Host`: hosts, and what can be wrong with a URL

The host of a URL is an address or a name. The name of a special scheme is a domain name and
is brought to its ASCII form; any other name is kept as it is written, with control characters
and everything beyond ASCII percent-encoded.
-/

set_option autoImplicit false

namespace SearchLink

/-- What can be wrong with a URL. -/
inductive UrlError where
  /-- There is no scheme, and nothing that the URL could be relative to. -/
  | noScheme
  /-- There is no host where there must be one. -/
  | emptyHost
  /-- The port is no number, or too large. -/
  | invalidPort
  /-- The host ends in a number, but is no address of four bytes. -/
  | invalidIpv4
  /-- The host is bracketed, but is no address of eight pieces. -/
  | invalidIpv6
  /-- The host is no domain name. -/
  | invalidDomain
  /-- The host has a character that no host has. -/
  | invalidHostCharacter
  deriving Repr, DecidableEq

/-- The wording of an error. -/
def UrlError.message : UrlError → String
  | .noScheme => "relative URL without a base"
  | .emptyHost => "empty host"
  | .invalidPort => "invalid port number"
  | .invalidIpv4 => "invalid IPv4 address"
  | .invalidIpv6 => "invalid IPv6 address"
  | .invalidDomain => "invalid international domain name"
  | .invalidHostCharacter => "invalid domain character"

/-- The host of a URL. -/
inductive Host where
  /-- A name. -/
  | registered (name : Text)
  /-- An address of four bytes. -/
  | ipv4 (address : Ipv4)
  /-- An address of eight pieces. -/
  | ipv6 (address : Ipv6)
  deriving Repr, DecidableEq

namespace Host

/-- How a host is written in a URL. -/
def write : Host → Text
  | .registered name => name
  | .ipv4 address => address.write
  | .ipv6 address => '[' :: address.write ++ [']']

/-- Whether a character is a control character or beyond ASCII. -/
def isControl (c : Char) : Bool := c.toNat < 0x20 || 0x7F ≤ c.toNat

/-- The characters that no host has. -/
def isForbidden (c : Char) : Bool :=
  ['\x00', '\t', '\n', '\r', ' ', '#', '/', ':', '<', '>', '?', '@', '[', '\\', ']', '^',
    '|'].contains c

/-- Reads what stands between brackets, if the text begins with one. -/
def bracketed? : Text → Option (Except UrlError Host)
  | '[' :: r =>
    some <|
      if r.getLast? = some ']' then
        match Ipv6.parse? r.dropLast with
        | some address => .ok (.ipv6 address)
        | none => .error .invalidIpv6
      else .error .invalidIpv6
  | _ => none

/-- Reads the host of a special scheme. -/
def parseSpecial (t : Text) : Except UrlError Host :=
  match bracketed? t with
  | some host => host
  | none =>
    match Text.ofUtf8? (Text.decodeBytes t) >>= Domain.toAscii? with
    | none => .error .invalidDomain
    | some [] => .error .emptyHost
    | some name =>
      if Ipv4.isMeant name then
        match Ipv4.parse? name with
        | some address => .ok (.ipv4 address)
        | none => .error .invalidIpv4
      else .ok (.registered name)

/-- Reads the host of any other scheme. -/
def parseOther (t : Text) : Except UrlError Host :=
  match bracketed? t with
  | some host => host
  | none =>
    if t.any isForbidden then .error .invalidHostCharacter
    else .ok (.registered (Text.encodeWhere isControl t))

end Host

end SearchLink
