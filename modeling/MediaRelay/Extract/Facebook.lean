import MediaRelay.Extract.Page
import MediaRelay.Extract.VideoUrl
import MediaRelay.Retry
/-! Films on Facebook, whose pages are asked for as a browser would and tried several times. -/

namespace MediaRelay.Extract.Facebook

open Web

variable {τ : Type}

def pageAttempts : Nat := 10

def browserHeaders : List (String × String) :=
  [("sec-fetch-user", "?1"), ("sec-ch-ua-mobile", "?0"), ("sec-fetch-site", "none"),
   ("sec-fetch-dest", "document"), ("sec-fetch-mode", "navigate"), ("cache-control", "max-age=0"),
   ("upgrade-insecure-requests", "1"), ("accept-language", "en-GB,en;q=0.9"), browserAgent,
   ("accept",
    "text/html,application/xhtml+xml,application/xml;q=0.9,image/avif,image/webp,*/*;q=0.8")]

def filmOn (r : Reply) : Except MediaError String := do
  let page ← pageText (← insist "facebook" r)
  match findVideoUrl page with
  | some url => .ok url
  | none => .error (.extractionFailed "no video url found")

def scrape (link : String) : Job τ String :=
  (ask "fetch facebook url" { url := link, headers := browserHeaders }).bind fun r => Job.ofExcept (filmOn r)

/-- The last failure of a page; a fired token stays a cancellation. -/
def pageError : MediaError → MediaError
  | .cancelled => .cancelled
  | e => .extractionFailed s!"facebook video failed after {pageAttempts} attempts: {e.message}"

def pageLink (link : String) : Job τ String :=
  if holdsText link "/share/" then resolveRedirect link else Job.pure link

def fetch (link : String) : Job τ (List Item) :=
  (pageLink link).bind fun link =>
    (Job.mapError pageError (Job.retry (.immediate pageAttempts) (scrape link))).bind fun url =>
      Job.pure [.video url]

end MediaRelay.Extract.Facebook
