import MediaRelay.Text.Blank
import MediaRelay.Web.Url
/-! Which links belong to a platform. Only the host of the parsed link counts, so that a platform's name in a
path or a query never does. -/

namespace MediaRelay.Platform

/-- Whether a host is `domain` or lies below it. -/
def isWithin (host domain : List Char) : Bool :=
  host = domain || ('.' :: domain).isSuffixOf host

/-- The host of a link in lower case; none where the link cannot be read or has none. -/
def hostOf? (link : String) : Option (List Char) :=
  (Web.Url.parse (Text.trim link.toList)).bind fun u => u.host.map (·.map Char.toLower)

/-- Whether the host of a link is one of `hosts` or a subdomain of one. -/
def matchesHost (link : String) (hosts : List String) : Bool :=
  match hostOf? link with
  | none => false
  | some host => hosts.any fun h => isWithin host h.toList

end MediaRelay.Platform
