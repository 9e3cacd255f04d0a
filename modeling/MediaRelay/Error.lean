import MediaRelay.Telegram.Failure
import MediaRelay.Web.Status
import MediaRelay.Decimal.Tenths
/-! What can go wrong, by cause, and how each cause is worded for a reader. -/

namespace MediaRelay

/-- Time and durations, in nanoseconds. -/
abbrev Nanos := Nat

def nanosPerMilli : Nat := 1000000
def nanosPerSecond : Nat := 1000000000

inductive HttpError where
  /-- no request could be made; the address is known where it could be read -/
  | notBuilt (url : Option String)
  /-- no answer came -/
  | notSent (url : String)
  /-- one redirect too many, sent from this address -/
  | redirects (url : String)
  /-- the body broke off, or is not what it should be -/
  | badBody
deriving DecidableEq, Repr, Inhabited

def HttpError.message : HttpError → String
  | .notBuilt none => "builder error"
  | .notBuilt (some url) => s!"builder error for url ({url})"
  | .notSent url => s!"error sending request for url ({url})"
  | .redirects url => s!"error following redirect for url ({url})"
  | .badBody => "error decoding response body"

inductive TransportError where
  | telegram (cause : Telegram.Failure)
  | missingAttachment
  | rejected (reason : String)
deriving DecidableEq, Repr, Inhabited

def TransportError.message : TransportError → String
  | .telegram cause => s!"telegram request failed: {cause.message}"
  | .missingAttachment => "upload response carried no attachment id"
  | .rejected reason => s!"rejected: {reason}"

/-- Failures on the way from a link to its delivery. Items are numbered from one, in the order in which they
were found. -/
inductive MediaError where
  | unsupportedPlatform
  | extractionFailed (reason : String)
  | noMediaFound
  | downloadFailed (index : Nat) (reason : String)
  | uploadFailed (index : Nat) (reason : String)
  | allDownloadsFailed (failures : List MediaError)
  | allUploadsFailed (failures : List MediaError)
  | oversizedPayload (size limit : Nat)
  | badStatus (code : Nat)
  | cancelled
  | http (cause : HttpError)
  | transport (cause : TransportError)
deriving Repr, Inhabited

namespace MediaError

mutual

def message : MediaError → String
  | .unsupportedPlatform => "unsupported platform"
  | .extractionFailed reason => s!"extraction failed: {reason}"
  | .noMediaFound => "no media found"
  | .downloadFailed index reason => s!"download #{index} failed: {reason}"
  | .uploadFailed index reason => s!"upload #{index} failed: {reason}"
  | .allDownloadsFailed failures => s!"all {failures.length} downloads failed: {joined failures}"
  | .allUploadsFailed failures => s!"all {failures.length} uploads failed: {joined failures}"
  | .oversizedPayload size limit => s!"payload too large ({size} bytes, max {limit})"
  | .badStatus code => s!"server answered {Web.statusLine code}"
  | .cancelled => "cancelled"
  | .http cause => s!"http error: {cause.message}"
  | .transport cause => cause.message

/-- The messages in order, with semicolons between them. -/
def joined : List MediaError → String
  | [] => ""
  | [e] => message e
  | e :: es => message e ++ "; " ++ joined es

end

/-- Too large a payload stays too large and a fired token stays fired; all else may get better. -/
def retryable : MediaError → Bool
  | .oversizedPayload _ _ => false
  | .cancelled => false
  | _ => true

/-- The number of the failed item, for failures of one item. -/
def itemIndex? : MediaError → Option Nat
  | .downloadFailed index _ => some index
  | .uploadFailed index _ => some index
  | _ => none

end MediaError

inductive CommandError where
  | notFound (name : String)
  | cooldown (left : Nanos)
  | usage (text : String)
  | media (cause : MediaError)
  | transport (cause : TransportError)
deriving Repr, Inhabited

def CommandError.message : CommandError → String
  | .notFound name => s!"unknown command: {name}"
  | .cooldown left => s!"please wait {Decimal.seconds left}s before using this command again"
  | .usage text => s!"usage: {text}"
  | .media cause => cause.message
  | .transport cause => cause.message

def failureSummary (failures : List MediaError) : String :=
  failures.foldl (fun text e => text ++ "\n- " ++ e.message) s!"{failures.length} item(s) could not be sent:"

end MediaRelay
