import GuideLayer.Url.Ipv6
import GuideLayer.Url.Scheme

/-!
Hosts. Hosts of the web are names in ASCII or internet addresses; under other
schemes a host is any text without delimiters. How a name is put into ASCII is
left open: it takes the tables of Unicode, and a program brings its own mapping.
-/

namespace GuideLayer

/-- Why a text is not a URL. -/
inductive UrlFault where
  | emptyHost
  | domainName
  | portNumber
  | ipv4Address
  | ipv6Address
  | hostCharacter
  | noScheme
  deriving DecidableEq, Repr

namespace UrlFault

def message : UrlFault → String
  | emptyHost => "empty host"
  | domainName => "invalid international domain name"
  | portNumber => "invalid port number"
  | ipv4Address => "invalid IPv4 address"
  | ipv6Address => "invalid IPv6 address"
  | hostCharacter => "invalid domain character"
  | noScheme => "relative URL without a base"

end UrlFault

inductive Host where
  | name (text : List Char)
  | ipv4 (address : Ipv4)
  | ipv6 (address : Ipv6)
  deriving DecidableEq, Repr

namespace Host

def render : Host → List Char
  | name text => text
  | ipv4 a => a.render
  | ipv6 a => '[' :: a.render ++ [']']

/-- What a name in ASCII does not hold. -/
def forbiddenInName (c : Char) : Bool :=
  Percent.control c || decide (127 ≤ c.toNat) ||
    [' ', '%', '#', '/', ':', '<', '>', '?', '@', '[', '\\', ']', '^', '|'].contains c

/-- What the host of a scheme outside the web must not hold. -/
def forbiddenInOther (c : Char) : Bool :=
  ['\x00', '\t', '\n', '\r', ' ', '#', '/', ':', '<', '>', '?', '@', '[', '\\', ']', '^',
    '|'].contains c

end Host

/-- How the names of hosts are put into ASCII: letters in lower case, and labels beyond ASCII in a
code of their own. -/
class HostNames where
  /-- The form in ASCII of the name that bytes in UTF-8 stand for, if there is one. -/
  toAscii? : List UInt8 → Option (List Char)
  not_forbidden : ∀ {bytes : List UInt8} {name : List Char}, toAscii? bytes = some name →
    ∀ c ∈ name, Host.forbiddenInName c = false

namespace Host

def bracketed (cs : List Char) : Except UrlFault Host :=
  match cs.getLast? with
  | some ']' =>
    match Ipv6.read? cs.tail.dropLast with
    | some a => .ok (ipv6 a)
    | none => .error .ipv6Address
  | _ => .error .ipv6Address

variable [HostNames]

/-- The name in ASCII that a text stands for after its percent codes are undone, or an internet
address if the name looks like one. -/
def readDomain (cs : List Char) : Except UrlFault Host :=
  match HostNames.toAscii? (Percent.decode cs) with
  | none => .error .domainName
  | some [] => .error .emptyHost
  | some text =>
    if Ipv4.endsInNumber text then
      match Ipv4.read? text with
      | some a => .ok (ipv4 a)
      | none => .error .ipv4Address
    else .ok (name text)

def read (k : SchemeClass) (cs : List Char) : Except UrlFault Host :=
  if cs.head? = some '[' then bracketed cs
  else if k.isSpecial then readDomain cs
  else if cs.any forbiddenInOther then .error .hostCharacter
  else .ok (name (Percent.encode Percent.control cs))

end Host

end GuideLayer
