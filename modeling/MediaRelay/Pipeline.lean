import MediaRelay.Download
import MediaRelay.Outbox
import MediaRelay.Platform.Registry
/-! From a link to its delivery: the platform finds the items, all are downloaded, and what came through is uploaded
and sent in one message. Items that fail on the way are counted and the rest goes out. -/

namespace MediaRelay

structure Pipeline (τ : Type) where
  platforms : List (Platform τ)
  downloader : Downloader
  outbox : Outbox

inductive Delivery where
  | sent (count : Nat)
  | partialSent (sent : Nat) (failures : List MediaError)

namespace Delivery

def count : Delivery → Nat
  | .sent n => n
  | .partialSent n _ => n

def failures : Delivery → List MediaError
  | .sent _ => []
  | .partialSent _ fs => fs

def ofFailures (sent : Nat) : List MediaError → Delivery
  | [] => .sent sent
  | failures => .partialSent sent failures

end Delivery

namespace DownloadResult

def payload? (r : DownloadResult) : Option (Nat × Payload) :=
  match r.outcome with
  | .ok p => some (r.index, p)
  | .error _ => none

def failure? (r : DownloadResult) : Option MediaError :=
  match r.outcome with
  | .ok _ => none
  | .error (.downloadFailed index reason) => some (.downloadFailed index reason)
  | .error e => some (.downloadFailed r.index e.message)

end DownloadResult

namespace Pipeline

variable {τ : Type}

def supports (p : Pipeline τ) (link : String) : Bool := (Platform.resolve? p.platforms link).isSome

/-- Finds the items behind a link; there must be some. -/
def extract (p : Pipeline τ) (link : String) : Job τ (List Item) :=
  (Job.watch (Platform.itemsOf p.platforms link)).bind fun items =>
    match items with
    | [] => Job.fail .noMediaFound
    | items => Job.pure items

variable [Transport τ]

def withEarlier (earlier : List MediaError) : MediaError → MediaError
  | .allUploadsFailed failures => .allUploadsFailed (MediaError.sortByItem (earlier ++ failures))
  | e => e

def sendDownloaded (p : Pipeline τ) (thread : Thread) (results : List DownloadResult) : Job τ Delivery :=
  let failures := results.filterMap DownloadResult.failure?
  match results.filterMap DownloadResult.payload? with
  | [] => Job.fail (.allDownloadsFailed failures)
  | payloads =>
    (Job.mapError (withEarlier failures) (p.outbox.sendIndexed thread payloads)).bind fun report =>
      Job.pure (.ofFailures report.sent (MediaError.sortByItem (failures ++ report.failures)))

/-- Downloads items and sends what came through. Fails only when nothing was delivered. -/
def deliverItems (p : Pipeline τ) (thread : Thread) (items : List Item) : Job τ Delivery :=
  (p.downloader.downloadAll items).bind (p.sendDownloaded thread)

/-- The whole way of one link. -/
def deliver (p : Pipeline τ) (thread : Thread) (link : String) : Job τ Delivery :=
  (p.extract link).bind fun items => p.deliverItems thread items

end Pipeline
end MediaRelay
