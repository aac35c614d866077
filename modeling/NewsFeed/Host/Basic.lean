/-
Hosts of addresses: a domain, an IP address, or a name that is taken as it is.

Which it is depends on the scheme of the address. In the schemes of the web (`ofDomain?`) a host is
a domain, brought to its canonical form, or an IP address. In other schemes (`ofName?`) it is a name
in which nothing is changed but what ASCII cannot hold. IPv6 addresses in brackets are hosts in all
schemes.
-/
import NewsFeed.Host.Domain
import NewsFeed.Host.Ipv4
import NewsFeed.Host.Ipv6
import NewsFeed.Text.Basic

namespace NewsFeed

/-- A host. -/
inductive Host where
  | domain (text : List Char)
  | ipv4 (address : Host.Ipv4)
  | ipv6 (address : Host.Ipv6)
  | name (text : List Char)
  deriving DecidableEq, Repr

namespace Host

/-- The IPv6 address in brackets. -/
def ofBrackets? (text : List Char) : Option Host :=
  if text.getLast? = some ']' then (Ipv6.read? (text.drop 1).dropLast).map .ipv6 else none

/-- The host that a text stands for in the schemes of the web. -/
def ofDomain? (text : List Char) : Option Host := do
  if text.head? = some '[' then ofBrackets? text
  else
    let labels ← labels? (← Text.Percent.decode? text)
    let domain := joinLabels labels
    if domain.isEmpty then none
    else if Ipv4.endsInNumber labels then (Ipv4.ofLabels? labels).map .ipv4
    else return .domain domain

/-- Whether a character is not allowed in a name. -/
def isForbiddenInName (c : Char) : Bool :=
  "\x00\t\n\r #/:<>?@[\\]^|".toList.contains c

/-- The host that a text stands for in other schemes. -/
def ofName? (text : List Char) : Option Host :=
  if text.head? = some '[' then ofBrackets? text
  else if text.any isForbiddenInName then none
  else some (.name (Text.Percent.encodeControls text))

/-- The written form of a host. -/
def write : Host → String
  | .domain text => String.ofList text
  | .ipv4 address => address.write
  | .ipv6 address => "[" ++ address.write ++ "]"
  | .name text => String.ofList text

end Host

end NewsFeed
