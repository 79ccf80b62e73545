import LoginGateway.Url.Basic
import LoginGateway.Url.Domain
import LoginGateway.Web.Percent

/-!
Reading hosts. A host in brackets is an IPv6 address. Under the schemes of the web a host is a
domain name, or an IPv4 address if it ends in a number; elsewhere it is kept as it stands.
-/
set_option autoImplicit false

namespace LoginGateway.Url.Host

def bracketed (cs : List Char) : Except Error Host :=
  match cs.getLast?, Ipv6.read? cs.dropLast with
  | some ']', some groups => .ok (.ipv6 groups)
  | _, _ => .error .ipv6

def readDomain (cs : List Char) : Except Error Host :=
  match Domain.ascii? (Percent.decode (Text.Utf8.encode cs)) with
  | none => .error .domain
  | some [] => .error .emptyHost
  | some domain =>
    if Ipv4.endsInNumber domain then
      match Ipv4.read? domain with
      | some address => .ok (.ipv4 address)
      | none => .error .ipv4
    else .ok (.name domain)

def readSpecial : List Char → Except Error Host
  | '[' :: rest => bracketed rest
  | cs => readDomain cs

def isForbidden (c : Char) : Bool :=
  ['\x00', '\t', '\n', '\r', ' ', '#', '/', ':', '<', '>', '?', '@', '[', '\\', ']', '^',
    '|'].contains c

def readOther : List Char → Except Error Host
  | '[' :: rest => bracketed rest
  | cs =>
    if cs.any isForbidden then .error .hostCharacter
    else .ok (.name (Percent.encode Percent.isVisible cs))

end LoginGateway.Url.Host
