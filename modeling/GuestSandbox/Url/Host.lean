import GuestSandbox.Url.Address
import GuestSandbox.Url.Domain
import GuestSandbox.Url.Percent

namespace GuestSandbox

inductive UrlError where
  | emptyHost
  | invalidName
  | invalidPort
  | invalidIpv4
  | invalidIpv6
  | invalidCharacter
  | relativeWithoutBase
  | relativeToOpaque
deriving Repr, DecidableEq, Inhabited

def UrlError.message : UrlError → String
  | .emptyHost => "empty host"
  | .invalidName => "invalid international domain name"
  | .invalidPort => "invalid port number"
  | .invalidIpv4 => "invalid IPv4 address"
  | .invalidIpv6 => "invalid IPv6 address"
  | .invalidCharacter => "invalid domain character"
  | .relativeWithoutBase => "relative URL without a base"
  | .relativeToOpaque => "relative URL with a cannot-be-a-base base"

namespace Url

def readBracketed (cs : List Char) : Except UrlError (List Char) :=
  if cs.getLast? != some ']' then .error .invalidIpv6
  else match ipv6Address? (cs.drop 1).dropLast with
    | some pieces => .ok ('[' :: ipv6Text pieces ++ [']'])
    | none => .error .invalidIpv6

def readHost (cs : List Char) : Except UrlError (List Char) :=
  if cs.head? == some '[' then readBracketed cs
  else match domainToAscii (decodePercent (Text.utf8 (String.ofList cs))) with
    | none => .error .invalidName
    | some name =>
      if name.isEmpty then .error .emptyHost
      else if endsInNumber name then match ipv4Address? name with
        | some address => .ok (ipv4Text address)
        | none => .error .invalidIpv4
      else .ok name

def readOpaqueHost (cs : List Char) : Except UrlError (List Char) :=
  if cs.head? == some '[' then readBracketed cs
  else if cs.any fun c => ['\x00', '\t', '\n', '\r', ' ', '#', '/', ':', '<', '>', '?', '@', '[', '\\', ']', '^', '|'].contains c
    then .error .invalidCharacter
  else .ok (encode isControl cs)

end Url

end GuestSandbox
