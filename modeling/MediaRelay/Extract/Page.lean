import MediaRelay.Fetch
import MediaRelay.Media.Item
import MediaRelay.Json.Reader
import MediaRelay.Json.Decode
/-! What the ways of extraction have in common: following a share link, insisting on a good answer, and decoding
one. -/

namespace MediaRelay.Extract

open Web

variable {τ : Type}

def maxPageBytes : Nat := 5 * 1024 * 1024

def browserAgent : String × String := ("user-agent", userAgent)

def ask (trying : String) (d : Draft) : Job τ Reply :=
  Fetch.sendOr (fun e => .extractionFailed s!"failed to {trying}: {e.message}") d

/-- Follows a share link and gives the address where it ends. -/
def resolveRedirect (link : String) : Job τ String :=
  (ask s!"resolve {link}" { url := link, headers := [browserAgent] }).bind fun r => Job.pure r.url.toString

def insist (who : String) (r : Reply) : Except MediaError Reply :=
  if isSuccess r.status then .ok r
  else .error (.extractionFailed s!"{who} returned status {r.status}")

/-- The first bytes of a page as text. -/
def pageText (r : Reply) : Except MediaError String :=
  match r.body.readPrefix maxPageBytes with
  | .ok bytes => .ok (textOfBytes bytes)
  | .error _ => .error (.http .badBody)

/-- The decoded answer, or the failure that names its sender. -/
def decodeReply {α : Type} (who : String) (dec : Json.Decoder α) (r : Reply) : Except MediaError α :=
  let bad := MediaError.extractionFailed s!"failed to decode {who} response: {HttpError.badBody.message}"
  match r.body.readAll with
  | .error _ => .error bad
  | .ok bytes =>
    let d := Json.readBytes bytes
    match Json.decodeDocument dec d.value d.trailing with
    | .ok a => .ok a
    | .error _ => .error bad

end MediaRelay.Extract
