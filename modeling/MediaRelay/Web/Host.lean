import MediaRelay.Web.Host.Address
import MediaRelay.Web.Percent
/-! The host of an address, in the form in which it is shown. -/

namespace MediaRelay.Web.Host

def inBrackets? (s : List Char) : Option (List Char) :=
  match s with
  | '[' :: rest => if rest.getLast? == some ']' then some rest.dropLast else none
  | _ => none

/-- The host of an address on the web: a name, an IPv4 address or an IPv6 address in brackets. -/
def parse (s : List Char) : Option (List Char) :=
  if s.head? == some '[' then do
    return writeIpv6 (← parseIpv6 (← inBrackets? s))
  else do
    let name ← toAscii (← Percent.decodeText? s)
    if name.isEmpty then none
    else if endsInNumber name then (parseIpv4 name).map writeIpv4
    else some name

def isForbiddenOpaque (c : Char) : Bool :=
  c = '\x00' || c = '\t' || c = '\n' || c = '\r' || " #/:<>?@[\\]^|".toList.contains c

/-- The host of an address of another kind, kept as it is written. -/
def parseOpaque (s : List Char) : Option (List Char) :=
  if s.head? == some '[' then do
    return writeIpv6 (← parseIpv6 (← inBrackets? s))
  else if s.any isForbiddenOpaque then none
  else some (Percent.encode Percent.inControls s)

end MediaRelay.Web.Host
