import MediaRelay.World
import MediaRelay.Web.Redirect
/-! Fetching from the web: one exchange after another until an answer is no redirect. Cookies that answers set are
kept and sent along, unless a request brings its own. -/

namespace MediaRelay

open Web

structure Reply where
  url : Url
  status : Nat
  headers : List Header
  body : Body

namespace Fetch

variable {τ : Type}

/-- The request as it is sent, with the cookies of the jar if it has none of its own. -/
def requestOf (jar : CookieJar) (method body : String) (url : Url) (headers : List Header) : Request :=
  let cookies := match header? "cookie" headers, jar.header? url with
    | none, some text => [headerOf ("cookie", text)]
    | _, _ => []
  { method, body, url := url.withoutFragment.withoutCredentials.toString, headers := headers ++ cookies }

/-- One request and its answer. The answer must come before `due`; `shown` is the address that a failure names. -/
def exchange (due : Nanos) (shown : String) (url : Url) (q : Request) :
    Job τ (Except HttpError Response) := fun w =>
  let reaction := w.network.react w.requests q
  let w := { w with requests := w.requests ++ [q], late := w.lateWith (.request q) }
  match reaction with
  | .answer r => (.done (.ok r), { w with client.jar := w.client.jar.storeAll url r.headers })
  | .dropped => (.done (.error (.notSent shown)), w)
  | .silent =>
    match w.sleep (due - w.now) with
    | (true, w) => (.done (.error (.notSent shown)), w)
    | (false, w) => (.waiting, w)
  | .stops => (.waiting, w.fire)
  | .crashes => (.crashed, w)

/-- Follows redirects, at most `left` more; `previous` is the page that sent the client here, if one did. -/
def follow (due : Nanos) (shown : String) (p : Prepared) :
    (left : Nat) → (previous : Option Url) → (url : Url) → Job τ (Except HttpError Reply)
  | left, previous, url => fun w =>
    let headers := match previous with
      | some previous => hopHeaders previous url p.headers
      | none => p.headers
    match exchange due shown url (requestOf w.client.jar p.method p.body url headers) w with
    | (.done (.ok r), w) =>
      match (if isRedirect r.status then redirectTarget? url r else none) with
      | none => (.done (.ok ⟨url, r.status, r.headers, r.body⟩), w)
      | some target =>
        match left with
        | 0 => (.done (.error (.redirects url.toString)), w)
        | left + 1 =>
          if !target.isHttp then (.done (.error (.notBuilt (some target.toString))), w)
          else follow due shown (p.afterStatus r.status) left (some url) target w
    | (.done (.error e), w) => (.done (.error e), w)
    | (.failed e, w) => (.failed e, w)
    | (.waiting, w) => (.waiting, w)
    | (.crashed, w) => (.crashed, w)

def send (d : Draft) : Job τ (Except HttpError Reply) := fun w =>
  match d.prepare with
  | .error e => (.done (.error e), w)
  | .ok p =>
    follow (w.now + w.client.timeout) p.url.toString p maxRedirects none p.url.withoutFragment w

/-- Sends a draft; the failure is worded by `say`. -/
def sendOr (say : HttpError → MediaError) (d : Draft) : Job τ Reply :=
  (send d).bind fun r => .ofExcept (r.mapError say)

end Fetch
end MediaRelay
