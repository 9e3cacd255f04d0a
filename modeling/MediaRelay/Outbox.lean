import MediaRelay.Arrival
import MediaRelay.Retry
import MediaRelay.Text.Chunk
/-! Sending with retries. A long text goes out piece by piece, and each piece is tried on its own. Several payloads
are uploaded side by side and go out in one message; one that could not be uploaded is reported, and stops the
others only when none is left. -/

namespace MediaRelay

structure Outbox where
  attempts : Nat
  maxUpload : Nat
  arrival : Arrival := .inOrder

structure SendReport where
  sent : Nat := 0
  failures : List MediaError := []

namespace MediaError

/-- Numbered failures by number, others last, and else in the order given. -/
def sortByItem (failures : List MediaError) : List MediaError :=
  failures.mergeSort fun a b => a.itemIndex?.getD Word.maxUnsigned ≤ b.itemIndex?.getD Word.maxUnsigned

end MediaError

namespace Outbox

variable {τ : Type} [Transport τ]

def backoff (o : Outbox) : Backoff := .immediate (max o.attempts 1)

def sendTextOnce (thread : Thread) (text : String) : Job τ Unit :=
  .call (.text thread text) (Transport.sendText thread text) fun () => none

def uploadOnce (thread : Thread) (p : Payload) : Job τ Attachment :=
  .call (.upload thread p) (Transport.upload thread p) some

def sendOnce (thread : Thread) (attachments : List Attachment) : Job τ Unit :=
  .call (.send thread attachments) (Transport.sendAttachments thread attachments) fun () => none

def textPieces (limit : Option Nat) (text : String) : List String :=
  match limit with
  | some limit => splitText text limit
  | none => [text]

def sendPieces (o : Outbox) (thread : Thread) : List String → Job τ Unit
  | [] => Job.pure ()
  | piece :: rest => (Job.retry o.backoff (sendTextOnce thread piece)).bind fun _ => sendPieces o thread rest

/-- Sends a text. Pieces that were delivered are not repeated. -/
def sendMessage (o : Outbox) (thread : Thread) (text : String) : Job τ Unit := fun w =>
  o.sendPieces thread (textPieces (Transport.textLimit w.messenger) text) w

def oversized? (o : Outbox) (p : Payload) : Option MediaError :=
  if p.size > o.maxUpload then some (.oversizedPayload p.size o.maxUpload) else none

/-- Uploads and sends one payload. Upload and send share one budget: after a failed send the payload is
uploaded again. -/
def sendMedia (o : Outbox) (thread : Thread) (p : Payload) : Job τ Unit :=
  match o.oversized? p with
  | some e => Job.fail e
  | none => Job.retry o.backoff ((uploadOnce thread p).bind fun a => sendOnce thread [a])

def sendAttachments (o : Outbox) (thread : Thread) (attachments : List Attachment) : Job τ Unit :=
  Job.retry o.backoff (sendOnce thread attachments)

/-- A payload with its number, and what its upload has come to; nothing yet at first. -/
structure Upload where
  index : Nat
  payload : Payload
  result : Option (Except MediaError Attachment) := none
  /-- the task died -/
  lost : Bool := false

namespace Upload

def settled (u : Upload) : Bool := u.lost || u.result.isSome

def settle (u : Upload) (r : Except MediaError Attachment) : Upload := { u with result := some r }

def failure? (u : Upload) : Option MediaError :=
  match u.result with
  | some (.ok _) => none
  | some (.error e) => some (.uploadFailed u.index e.message)
  | none => some (.uploadFailed u.index "upload task aborted")

def attachment? (u : Upload) : Option Attachment :=
  match u.result with
  | some (.ok a) => some a
  | _ => none

end Upload

/-- The next try of an upload that is not settled. A failure settles it when no other try is left or none can
help, and the token settles it between tries. -/
def tryUpload (thread : Thread) (more : Bool) (u : Upload) (w : World τ) : Upload × World τ :=
  if u.settled then (u, w)
  else if w.stopped then (u.settle (.error .cancelled), w)
  else match uploadOnce thread u.payload w with
    | (.done a, w) => (u.settle (.ok a), w)
    | (.failed e, w) => (if more && e.retryable then u else u.settle (.error e), w)
    | (.waiting, w) => (u.settle (.error .cancelled), w)
    | (.crashed, w) => ({ u with lost := true }, w)

def tryUploads (thread : Thread) (more : Bool) : List Upload → World τ → List Upload × World τ
  | [], w => ([], w)
  | u :: us, w =>
    let (u, w) := tryUpload thread more u w
    let (us, w) := tryUploads thread more us w
    (u :: us, w)

/-- Uploads side by side: each waits for its next try until the others have had theirs. -/
def uploadAll (thread : Thread) : (retries : Nat) → List Upload → World τ → List Upload × World τ
  | retries, us, w =>
    if us.all Upload.settled then (us, w)
    else
      match retries with
      | 0 => tryUploads thread false us w
      | retries + 1 =>
        let (us, w) := tryUploads thread true us w
        uploadAll thread retries us w

/-- The uploads to make, in order, where one that is too large has failed already. -/
def uploadsOf (o : Outbox) (payloads : List (Nat × Payload)) : List Upload :=
  payloads.map fun (index, payload) =>
    { index, payload, result := (o.oversized? payload).map .error }

def sendUploaded (o : Outbox) (thread : Thread) (uploads : List Upload) : Job τ SendReport :=
  let failures := MediaError.sortByItem (uploads.filterMap Upload.failure?)
  match uploads.filterMap Upload.attachment? with
  | [] => Job.fail (.allUploadsFailed failures)
  | attachments =>
    (o.sendAttachments thread attachments).bind fun _ =>
      Job.pure { sent := attachments.length, failures }

/-- Uploads two or more payloads and sends what came through in one message. -/
def sendTogether (o : Outbox) (thread : Thread) (payloads : List (Nat × Payload)) : Job τ SendReport := fun w =>
  let (uploads, w) := uploadAll thread o.backoff.retries (o.uploadsOf payloads) w
  o.sendUploaded thread (Arrival.inPlace (o.arrival.collect uploads)) w

/-- Sends one payload; its failure is that of all, unless the token fired. -/
def sendSingle (o : Outbox) (thread : Thread) (index : Nat) (p : Payload) : Job τ SendReport :=
  Job.mapError
    (fun e => match e with
      | .cancelled => .cancelled
      | e => .allUploadsFailed [.uploadFailed index e.message])
    ((o.sendMedia thread p).bind fun _ => Job.pure { sent := 1 })

/-- Sends payloads under the numbers given, so that failures keep the numbering of the list they came from.
Fails only when nothing was sent. -/
def sendIndexed (o : Outbox) (thread : Thread) (payloads : List (Nat × Payload)) : Job τ SendReport :=
  match payloads with
  | [] => Job.pure {}
  | [(index, p)] => o.sendSingle thread index p
  | payloads => o.sendTogether thread payloads

def sendMultiMedia (o : Outbox) (thread : Thread) (payloads : List Payload) : Job τ SendReport :=
  o.sendIndexed thread (payloads.zipIdx.map fun (p, i) => (i + 1, p))

end Outbox
end MediaRelay
