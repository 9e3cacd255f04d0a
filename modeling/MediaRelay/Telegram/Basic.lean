import MediaRelay.Word
import MediaRelay.Telegram.Failure
import MediaRelay.Transport.Attachment
/-! Calls of the Bot API that send something, and what is learned from them. Which answers the API gives is left to
an instance. -/

namespace MediaRelay.Telegram

inductive InputFile where
  | stored (id : String)
  | enclosed (name : String) (data : ByteArray)

inductive Content where
  | message (text : String)
  | file (kind : AttachmentKind) (file : InputFile)
  | mediaGroup (media : List Attachment)

structure ApiCall where
  chat : Int
  content : Content

def fileMethod : AttachmentKind → String
  | .photo => "sendPhoto"
  | .video => "sendVideo"
  | .document => "sendDocument"

def Content.method : Content → String
  | .message _ => "sendMessage"
  | .file kind _ => fileMethod kind
  | .mediaGroup _ => "sendMediaGroup"

inductive SentMedia where
  | none
  /-- by size, the smallest first -/
  | photo (sizes : List String)
  | video (id : String)
  | document (id : String)
  | animation (id : String)
deriving DecidableEq, Repr, Inhabited

/-- The id under which a file that was sent as `kind` can be sent again. An animation is sent as a document. -/
def SentMedia.idAs? : AttachmentKind → SentMedia → Option String
  | .photo, .photo sizes => sizes.getLast?
  | .video, .video id => some id
  | .document, .document id => some id
  | .document, .animation id => some id
  | _, _ => Option.none

class BotApi (σ : Type) where
  /-- the id of the bot -/
  getMe : σ → Except Failure Nat × σ
  send : ApiCall → σ → Except Failure SentMedia × σ

/-- Ids of users go around at 2^63, as signed words do. -/
def userId (id : Nat) : Int := Int.bmod id Word.count

end MediaRelay.Telegram
