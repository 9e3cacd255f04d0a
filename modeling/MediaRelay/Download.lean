import MediaRelay.Arrival
import MediaRelay.Fetch
import MediaRelay.Media.Item
import MediaRelay.Text.Blank
import MediaRelay.Word
/-! Downloading many items side by side, with a bound on how many are fetched at once and on the size of each. The
failure of one item leaves the others alone, and results keep the order of the items. -/

namespace MediaRelay

open Web

/-- As many permits as a semaphore can hold: a word counts them, of which three bits are taken. -/
def Downloader.maxPermits : Nat := Word.maxUnsigned / 8

structure Downloader where
  maxBytes : Nat
  /-- at most this many fetches at once; none counts as one -/
  concurrency : Nat
  arrival : Arrival := .inOrder
  permitted : concurrency ≤ Downloader.maxPermits := by decide

namespace Downloader

def permits (d : Downloader) : Nat := max d.concurrency 1

/-- A downloader, unless it asks for more permits than there can be, which crashes. -/
def make? (maxBytes concurrency : Nat) (arrival : Arrival := .inOrder) : Option Downloader :=
  if permitted : concurrency ≤ maxPermits then some { maxBytes, concurrency, arrival, permitted } else none

def crash : String := s!"a semaphore may not have more than MAX_PERMITS permits ({maxPermits})"

end Downloader

structure DownloadResult where
  index : Nat
  item : Item
  outcome : Except MediaError Payload

namespace Download

variable {τ : Type}

def contentType? (headers : List Header) : Option String := do
  let text ← headerText? (← header? "content-type" headers)
  let name := String.ofList (Text.trim (text.toList.takeWhile (· ≠ ';')))
  if name.isEmpty then none else some name

def bodyError (limit : Nat) : BodyFault → MediaError
  | .oversized size => .oversizedPayload size limit
  | .broken => .http .badBody

def payloadOf (maxBytes : Nat) (item : Item) (r : Reply) : Except MediaError Payload :=
  if !isSuccess r.status then .error (.badStatus r.status)
  else match r.body.readCapped maxBytes with
    | .error fault => .error (bodyError maxBytes fault)
    | .ok data => .ok ⟨data, (contentType? r.headers).getD item.kind.defaultMime⟩

def fetch (maxBytes : Nat) (item : Item) : Job τ Payload :=
  (Fetch.sendOr .http { url := item.url }).bind fun r => .ofExcept (payloadOf maxBytes item r)

structure Ended where
  time : Nanos
  outcome : Except MediaError Payload

/-- How the task of item `index` reports the end of its fetch. -/
def settle (index : Nat) : Outcome Payload → Except MediaError Payload
  | .done p => .ok p
  | .failed e => .error e
  | .waiting => .error .cancelled
  | .crashed => .error (.downloadFailed index "download task aborted")

def takeEarliest : Nanos → List Nanos → Nanos × List Nanos
  | t, [] => (t, [])
  | t, u :: rest =>
    if u < t then
      let (first, others) := takeEarliest u rest
      (first, t :: others)
    else
      let (first, others) := takeEarliest t rest
      (first, u :: others)

/-- Fetches the items from number `index` on. Each starts when a permit is free, in order; `free` and `others` are
the times at which the permits are. -/
def fetchAll (maxBytes : Nat) (index : Nat) (free : Nanos) (others : List Nanos) :
    List Item → World τ → List Ended × World τ
  | [], w => ([], w)
  | item :: items, w =>
    let (start, others) := takeEarliest free others
    let w := { w with now := start }
    let (ended, w) : Ended × World τ :=
      match Job.watch (fetch maxBytes item) w with
      | (outcome, w) => (⟨w.now, settle index outcome⟩, w)
    let (rest, w) := fetchAll maxBytes (index + 1) ended.time others items w
    (ended :: rest, w)

/-- The token cancels what had not ended when it fired. -/
def cutOff (firedAt : Option Nanos) (e : Ended) : Ended :=
  match firedAt with
  | some s => if s < e.time then ⟨s, .error .cancelled⟩ else e
  | none => e

end Download

namespace Downloader

variable {τ : Type}

def downloadAll (d : Downloader) (items : List Item) : Job τ (List DownloadResult) := fun w =>
  let (ends, w') := Download.fetchAll d.maxBytes 1 w.now (List.replicate (min d.permits items.length - 1) w.now) items w
  let ends := ends.map (Download.cutOff w'.firedAt)
  let ends := Arrival.inPlace (d.arrival.collect ends)
  let results := (items.zip ends).zipIdx.map fun ((item, e), place) => ⟨place + 1, item, e.outcome⟩
  (.done results, { w' with now := ends.foldl (fun t e => max t e.time) w.now })

end Downloader
end MediaRelay
