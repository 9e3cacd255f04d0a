import MediaRelay.Error
import MediaRelay.Media.Item
import MediaRelay.Transport.Attachment
/-! The outbound half of a messaging platform. Uploading and sending are separate calls, so that several
uploads can go out in one message. -/

namespace MediaRelay

abbrev Thread := Int

/-- How a call ended. The stop token may fire while the call runs; a call that is never answered is one during
which it fired. -/
inductive Answer (α : Type) where
  | accepted (value : α) (fires : Bool)
  | refused (cause : TransportError) (fires : Bool)
  | unanswered
  /-- the task that made the call died in it -/
  | crashed

class Transport (τ : Type) where
  /-- the bot's own user id -/
  selfId : τ → Int
  /-- longest text that one call takes, in bytes; `none` for no limit -/
  textLimit : τ → Option Nat
  sendText : Thread → String → τ → Answer Unit × τ
  upload : Thread → Payload → τ → Answer Attachment × τ
  sendAttachments : Thread → List Attachment → τ → Answer Unit × τ

inductive Call where
  | text (thread : Thread) (text : String)
  | upload (thread : Thread) (payload : Payload)
  | send (thread : Thread) (attachments : List Attachment)

inductive Verdict where
  | accepted
  | refused
  | unanswered
  | crashed
deriving DecidableEq, Repr

def Answer.verdict {α : Type} : Answer α → Verdict
  | .accepted _ _ => .accepted
  | .refused _ _ => .refused
  | .unanswered => .unanswered
  | .crashed => .crashed

/-- Whether the stop token fired during the call. -/
def Answer.fires {α : Type} : Answer α → Bool
  | .accepted _ fires => fires
  | .refused _ fires => fires
  | .unanswered => true
  | .crashed => false

def Answer.value? {α : Type} : Answer α → Option α
  | .accepted a _ => some a
  | _ => none

structure CallRecord where
  call : Call
  verdict : Verdict
  fired : Bool
  /-- what the call handed out -/
  attachment : Option Attachment := none

end MediaRelay
