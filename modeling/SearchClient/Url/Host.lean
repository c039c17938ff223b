import SearchClient.Url.Address
import SearchClient.Url.Domain

/-!
# Hosts

The host of a special scheme is a domain name or an address, read after its
escapes are decoded; the host of any other scheme is opaque text or an IPv6
address.
-/

namespace SearchClient

inductive Host where
  | name (text : String)
  | ipv4 (address : Nat)
  | ipv6 (pieces : List Nat)
  deriving DecidableEq

namespace Host

def render : Host → String
  | .name text => text
  | .ipv4 address => Ipv4.render address
  | .ipv6 pieces => "[" ++ Ipv6.render pieces ++ "]"

/-- An IPv6 address up to its closing bracket. -/
def parseBracketed (text : List Char) : Except UrlError Host :=
  if text.getLast? = some ']' then (Ipv6.parse text.dropLast).map .ipv6
  else .error .invalidIpv6

def parseSpecial (text : List Char) : Except UrlError Host :=
  match text with
  | '[' :: rest => parseBracketed rest
  | text => do
    let ascii ← Domain.toAscii (Percent.decode (Utf8.encode text))
    if Ipv4.endsInNumber ascii then (Ipv4.parse ascii).map .ipv4
    else pure (.name (String.ofList ascii))

def isForbiddenInOpaque (c : Char) : Bool :=
  "\x00\t\n\r #/:<>?@[\\]^|".toList.contains c

def parseOpaque (text : List Char) : Except UrlError Host :=
  match text with
  | '[' :: rest => parseBracketed rest
  | text =>
    if text.any isForbiddenInOpaque then .error .invalidDomainCharacter
    else .ok (.name (String.ofList (Percent.encode Percent.isControl text)))

end Host

end SearchClient
