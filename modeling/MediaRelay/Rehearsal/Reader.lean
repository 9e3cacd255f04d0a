import MediaRelay.Rehearsal.BotApi
import MediaRelay.Rehearsal.Field
import MediaRelay.Rehearsal.Page
import MediaRelay.Rehearsal.Tape
/-! Reading rehearsals: the script of a platform, the pages of a web, the answers of a Bot API, and the errors that
they give. -/

namespace MediaRelay.Rehearsal

def readErrors (read : Json → Read MediaError) : List Json → Read (List MediaError)
  | [] => .ok []
  | j :: rest => do return (← read j) :: (← readErrors read rest)

def errorOf (j : Json) (failures : List MediaError) : Read MediaError := do
  let reason := (getStr j "reason").getD ""
  match ← need "kind" (getStr j "kind") with
  | "UnsupportedPlatform" => return .unsupportedPlatform
  | "ExtractionFailed" => return .extractionFailed reason
  | "NoMediaFound" => return .noMediaFound
  | "DownloadFailed" => return .downloadFailed (getNat j "index" 0) reason
  | "UploadFailed" => return .uploadFailed (getNat j "index" 0) reason
  | "AllDownloadsFailed" => return .allDownloadsFailed failures
  | "AllUploadsFailed" => return .allUploadsFailed failures
  | "OversizedPayload" => return .oversizedPayload (getNat j "size" 0) (getNat j "limit" 0)
  | "BadStatus" => return .badStatus (getNat j "status" 0)
  | "Cancelled" => return .cancelled
  | "MissingAttachment" => return .transport .missingAttachment
  | "Rejected" => return .transport (.rejected reason)
  | kind => throw kind

def errorDepth : Nat := 64

def readErrorWithin : Nat → Json → Read MediaError
  | 0, _ => .error "failures"
  | depth + 1, j => do errorOf j (← readErrors (readErrorWithin depth) (getList j "failures"))

def readError (j : Json) : Read MediaError := readErrorWithin errorDepth j

def readCommandError (j : Json) : Read CommandError := do
  match getStr j "kind" with
  | some "NotFound" => return .notFound ((getStr j "name").getD "")
  | some "Usage" => return .usage ((getStr j "text").getD "")
  | some "Cooldown" => return .cooldown (getNat j "nanos" 0)
  | some "MissingAttachment" => return .transport .missingAttachment
  | some "Rejected" => return .transport (.rejected ((getStr j "reason").getD ""))
  | _ => return .media (← readError j)

def readBackoff (j : Json) : Read Backoff :=
  match j.get? "immediate", j.get? "doubling", j.get? "delays_ms" with
  | some n, _, _ => .ok (.immediate (asNat n))
  | _, some (.array [ms, n]), _ => .ok (.doubling (asNat ms * nanosPerMilli) (asNat n))
  | _, _, some l => .ok (.ofList ((asList l).map fun ms => asNat ms * nanosPerMilli))
  | _, _, _ => .error "strategy"

def readTake (j : Json) : Read Take := do
  match j with
  | .string (some "ok") => return ⟨0, .succeeds⟩
  | .string (some "cancel") => return ⟨0, .stops⟩
  | _ =>
    let time := getNat j "takes_ms" 0 * nanosPerMilli
    if (getStr j "kind").isSome then return ⟨time, .fails (← readError j)⟩ else return ⟨time, .succeeds⟩

def labels (j : Json) (key : String) : List String := (getList j key).map asText

def readScript (j : Json) : Script :=
  { selfId := (getInt j "self_id").getD 999
    textLimit := (getInt j "text_limit").map (·.toNat)
    textFail := getNat j "text_fail" 0
    sendFail := getNat j "send_fail" 0
    uploadFail := ((j.get? "upload_fail").elim [] members).map fun (label, n) => (label, asNat n)
    uploadMissing := labels j "upload_missing"
    uploadCrash := labels j "upload_crash"
    uploadStop := labels j "cancel_upload"
    textStop := (getInt j "cancel_text").map (·.toNat)
    sendStop := (getInt j "cancel_send").map (·.toNat)
    aftermath := match getStr j "cancel_then" with
      | some "ok" => .succeeds
      | some "fail" => .refuses
      | _ => .hangs }

/-- The value of a header goes without blanks around it. -/
def trimHeader (b : ByteArray) : ByteArray :=
  let blank (c : UInt8) : Bool := c == 32 || c == 9
  ⟨((b.toList.dropWhile blank).reverse.dropWhile blank).reverse.toArray⟩

def readHeader (j : Json) : Read Web.Header :=
  match j with
  | .array [.string (some name), b] => .ok ⟨(name.map Char.toLower), trimHeader (bytesOf b)⟩
  | _ => .error "header"

def readReaction (j : Json) : Read Web.Reaction := do
  let status := getNat j "status" 200
  let headers ← (getList j "headers").mapM readHeader
  match getStr j "fault" with
  | some "drop" => return .dropped
  | some "cancel" => return .stops
  | some "hang" => return .silent
  | fault =>
    match j.get? "chunks" with
    | some (.array chunks) =>
      return .answer ⟨status, headers, ⟨none, chunks.map bytesOf, fault != some "truncate"⟩⟩
    | _ =>
      let body := getBytes j "body"
      return .answer ⟨status, headers, framed status body (getNat j "declared" body.size)⟩

def readPage (j : Json) : Read Page := do
  return { url := (getStr j "url").getD "", method := getStr j "method"
           reactions := ← (getList j "responses").mapM readReaction }

def readNetwork (j : Json) : Read Web.Network := do
  return networkOf (← (getList j "web").mapM readPage)

def readFailure (j : Json) : Telegram.Failure :=
  let parameters := (j.get? "parameters").getD .null
  match getInt parameters "retry_after", getInt parameters "migrate_to_chat_id" with
  | some n, _ => .flooded n.toNat
  | none, some chat => .migrated chat
  | none, none => .refused ((getStr j "description").getD "")

/-- The media of a message. An animation is given as a document too. -/
def readSentMedia (j : Json) : Telegram.SentMedia :=
  match getStr j "animation", getStr j "document", j.get? "photo", getStr j "video" with
  | some id, _, _, _ => .animation id
  | _, some id, _, _ => .document id
  | _, _, some (.array sizes), _ => .photo (sizes.map asText)
  | _, _, _, some id => .video id
  | _, _, _, _ => .none

def readReply (j : Json) : Except Telegram.Failure ApiReply :=
  match getStr j "fault", j.get? "error" with
  | some _, _ => .error .unreachable
  | none, some e => .error (readFailure e)
  | none, none => .ok { id := getNat j "id" 999, media := readSentMedia j }

def readBotScript (j : Json) : BotScript :=
  { replies := (members j).map fun (method, replies) => (method, (asList replies).map readReply) }

end MediaRelay.Rehearsal
