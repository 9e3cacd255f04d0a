import MediaRelay.Text.Blank
import MediaRelay.Text.Utf8
import MediaRelay.Web.Url
import MediaRelay.Web.Exchange
/-! Cookies by RFC 6265: reading them from answers, keeping them, and choosing those that go with a request. -/

namespace MediaRelay.Web

structure Cookie where
  name : String
  value : String
  /-- with its subdomains, unless it was set for the host alone -/
  domain : String
  hostOnly : Bool
  path : String
  secure : Bool
deriving Repr, DecidableEq, Inhabited

structure CookieJar where
  cookies : List Cookie := []
deriving Inhabited

namespace Cookie

def trimmed (s : List Char) : List Char := Text.trim s

/-- Name and value around the first equals sign, without blanks around them. -/
def pair? (s : List Char) : Option (List Char × List Char) :=
  match Url.splitMark '=' s with
  | (name, some value) => some (trimmed name, trimmed value)
  | (_, none) => none

def nameAndValue? (header : ByteArray) : Option (String × String) := do
  let text ← String.fromUTF8? header
  let (name, value) ← pair? ((Text.splitAt ';' text.toList).headD [])
  if name.isEmpty then none
  return (String.ofList name, String.ofList value)

/-- The attributes after name and value: lower-case names, with values where they have one. -/
def attributes (text : List Char) : List (String × String) :=
  (Text.splitAt ';' text).tail.map fun p =>
    match pair? p with
    | some (k, v) => (String.ofList (k.map Char.toLower), String.ofList v)
    | none => (String.ofList ((trimmed p).map Char.toLower), "")

def defaultPath (path : List Char) : String :=
  match (path.reverse.dropWhile (· ≠ '/')).tail.reverse with
  | [] => "/"
  | dir => String.ofList dir

def isAddress (host : String) : Bool :=
  host.startsWith "[" || Host.endsInNumber host.toList

def domainMatches (domain host : String) : Bool :=
  host == domain || (host.endsWith ("." ++ domain) && !isAddress host)

def pathMatches (cookie path : String) : Bool :=
  path == cookie || (path.startsWith cookie && (cookie.endsWith "/" || path.startsWith (cookie ++ "/")))

def isWholeNumber (s : String) : Bool :=
  let digits := if s.startsWith "-" then (s.toList.drop 1) else s.toList
  !digits.isEmpty && digits.all Char.isDigit

/-- The cookie that an answer from `url` sets, and whether it only takes an old one away. -/
def ofHeader? (url : Url) (header : ByteArray) : Option (Cookie × Bool) := do
  let (name, value) ← nameAndValue? header
  let text ← String.fromUTF8? header
  let attributes := attributes text.toList
  let last := fun key => (attributes.reverse.find? (·.1 == key)).map (·.2)
  let host := String.ofList (url.host.getD [])
  let domain := (last "domain").map fun d =>
    String.ofList ((if d.startsWith "." then d.toList.drop 1 else d.toList).map Char.toLower)
  let named := domain.filter (· ≠ "")
  if named.any fun d => !domainMatches d host then none
  let path := match last "path" with
    | some p => if p.startsWith "/" then p else defaultPath url.pathText
    | none => defaultPath url.pathText
  let gone := match last "max-age" with
    | some age => isWholeNumber age && (age.startsWith "-" || age.toList.all (· = '0'))
    | none => false
  return ({ name, value, domain := named.getD host, hostOnly := named.isNone, path
            secure := (last "secure").isSome }, gone)

/-- Whether a cookie goes with a request to `url`. -/
def goesTo (c : Cookie) (url : Url) : Bool :=
  let host := String.ofList (url.host.getD [])
  (if c.hostOnly then host == c.domain else domainMatches c.domain host) &&
  pathMatches c.path (String.ofList url.pathText) &&
  (!c.secure || url.schemeIs "https")

end Cookie

namespace CookieJar

/-- Takes in what one header of an answer from `url` sets. -/
def store (url : Url) (jar : CookieJar) (header : ByteArray) : CookieJar :=
  match Cookie.ofHeader? url header with
  | none => jar
  | some (c, gone) =>
    let same := fun (d : Cookie) => d.name == c.name && d.domain == c.domain && d.path == c.path
    if gone then ⟨jar.cookies.filter (!same ·)⟩
    else if jar.cookies.any same then ⟨jar.cookies.map fun d => if same d then c else d⟩
    else ⟨jar.cookies ++ [c]⟩

/-- Takes in what an answer sets. -/
def storeAll (url : Url) (headers : List Header) (jar : CookieJar) : CookieJar :=
  (headerValues "set-cookie" headers).foldl (store url) jar

/-- The header that goes with a request, if any cookie does. -/
def header? (url : Url) (jar : CookieJar) : Option String :=
  match jar.cookies.filter (·.goesTo url) with
  | [] => none
  | cs => some ("; ".intercalate (cs.map fun c => c.name ++ "=" ++ c.value))

end CookieJar
end MediaRelay.Web
