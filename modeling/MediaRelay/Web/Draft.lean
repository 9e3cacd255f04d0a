import MediaRelay.Error
import MediaRelay.Web.Url
import MediaRelay.Web.Exchange
/-! Requests before they are sent: a draft names an address and headers as texts, and is turned into a request
where they are sound. -/

namespace MediaRelay.Web

structure Draft where
  method : String := "GET"
  url : String
  /-- pairs to add to the query of the address -/
  query : List (String × String) := []
  headers : List (String × String) := []
  /-- pairs to send as the body -/
  form : List (String × String) := []

structure Prepared where
  method : String
  /-- without credentials -/
  url : Url
  headers : List Header
  body : String

def userAgent : String :=
  "Mozilla/5.0 (Windows NT 10.0; Win64; x64) AppleWebKit/537.36 (KHTML, like Gecko) Chrome/120.0.0.0 Safari/537.36"

/-- Headers that go with each request which has none of their name. -/
def standardHeaders : List (String × String) := [("accept", "*/*"), ("user-agent", userAgent)]

/-- Header values hold no control characters but tabs. -/
def isHeaderValue (s : String) : Bool :=
  s.toList.all fun c => c = '\t' || (c.toNat ≥ 0x20 && c.toNat ≠ 0x7F)

def headerOf (h : String × String) : Header := ⟨h.1, h.2.toUTF8⟩

/-- Adds pairs to the query of an address. -/
def Url.addQuery (pairs : List (String × String)) (u : Url) : Url :=
  if pairs.isEmpty then u
  else
    let added := (Percent.form pairs).toList
    { u with query := some (match u.query with
        | none => added
        | some [] => added
        | some q => q ++ '&' :: added) }

/-- Checks a draft: first the address, then the headers, then whether the address is one of the web. -/
def Draft.prepare (d : Draft) : Except HttpError Prepared :=
  match Url.parse? d.url with
  | none => .error (.notBuilt none)
  | some url =>
    if url.host.isNone then .error (.notBuilt (some url.toString))
    else if !(d.headers.all fun h => isHeaderValue h.2) then .error (.notBuilt none)
    else
      let url := (url.addQuery d.query).withoutCredentials
      if !url.isHttp then .error (.notBuilt (some url.toString))
      else
        let form := if d.form.isEmpty then [] else [("content-type", "application/x-www-form-urlencoded")]
        let given := form ++ d.headers
        let standard := standardHeaders.filter fun h => !(given.any (·.1 == h.1))
        .ok { method := d.method, url, headers := (given ++ standard).map headerOf
              body := if d.form.isEmpty then "" else Percent.form d.form }

end MediaRelay.Web
