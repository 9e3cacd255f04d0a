import MediaRelay.Web.Draft
/-! Redirects: where an answer sends the client, and what the request there looks like. Each request that follows
is made from the first one, so a header taken off for one hop is back for the next. -/

namespace MediaRelay.Web

/-- At most this many redirects are followed. -/
def maxRedirects : Nat := 10

def isRedirect (status : Nat) : Bool := [301, 302, 303, 307, 308].contains status

def isAuthorityChar (c : Char) : Bool := c.isAlphanum || "-._~:@!$&'()*+,;=%".toList.contains c

/-- Whether a text has the form of a host and a port, with or without a user before them. -/
def isAuthorityText (s : List Char) : Bool :=
  let host := s.reverse.takeWhile (· ≠ '@')
  s.all isAuthorityChar && !host.isEmpty && host.count ':' ≤ 1 && !host.contains '%'

/-- Whether a request can name an address. One without a host must have the form of a host and a port to pass; it
is then refused for its scheme. -/
def Url.isNameable (u : Url) : Bool :=
  match u.host with
  | some host => !host.isEmpty
  | none => isAuthorityText u.withoutFragment.toText

/-- The address to which an answer sends the client. -/
def redirectTarget? (from_ : Url) (r : Response) : Option Url := do
  let text ← String.fromUTF8? (← header? "location" r.headers)
  let target ← from_.join text
  if target.isNameable then some target.withoutFragment else none

/-- Whether a redirect with this status repeats the method and the body. -/
def repeatsBody (method : String) (status : Nat) : Bool :=
  status = 307 || status = 308 || (status ≠ 303 && method ≠ "POST")

/-- The request as later hops start from it, after an answer with this status. -/
def Prepared.afterStatus (status : Nat) (p : Prepared) : Prepared :=
  if repeatsBody p.method status then p
  else { p with
    method := "GET"
    body := ""
    headers := p.headers.filter (·.name ≠ "content-type") }

def sameOrigin (a b : Url) : Bool := a.host == b.host && a.portOrDefault == b.portOrDefault

/-- What a request says about the page it comes from. -/
def referer? (previous next : Url) : Option Header :=
  if next.schemeIs "http" && previous.schemeIs "https" then none
  else some (headerOf ("referer", previous.withoutCredentials.withoutFragment.toString))

/-- The headers of a request that follows a redirect: own cookies stay with the host and port they were meant for,
and the page before is named where a safe connection is not left. -/
def hopHeaders (previous next : Url) (headers : List Header) : List Header :=
  let headers := if sameOrigin previous next then headers else headers.filter (·.name ≠ "cookie")
  match referer? previous next with
  | some h => headers.filter (·.name ≠ "referer") ++ [h]
  | none => headers

end MediaRelay.Web
