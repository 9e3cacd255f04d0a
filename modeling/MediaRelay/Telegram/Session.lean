import MediaRelay.Telegram.Album
import MediaRelay.Telegram.Basic
import MediaRelay.Text.Chunk
import MediaRelay.Transport.Basic
/-! Telegram as a messaging platform. Uploads are staged in a chat of their own, so that their ids can go out
together; one send may take several calls of the API, which are made in order up to the first that fails. -/

namespace MediaRelay.Telegram

def messageLimit : Nat := 4000

structure ApiRecord where
  call : ApiCall
  isAccepted : Bool

structure Session (σ : Type) where
  api : σ
  selfId : Int
  /-- the chat in which uploads are staged -/
  cacheChat : Int
  /-- oldest first -/
  calls : List ApiRecord := []

variable {σ : Type} [BotApi σ]

/-- Connects, which the API allows to a bot that it knows. -/
def connect (cacheChat : Int) (api : σ) : Except Failure (Session σ) :=
  let (me, api) := BotApi.getMe api
  me.map fun id => { api, selfId := userId id, cacheChat }

namespace Session

/-- Begins to listen for updates. The API is asked for the bot once more, and the answer is not used. -/
def listen (s : Session σ) : Session σ := { s with api := (BotApi.getMe s.api).2 }

def post (call : ApiCall) (s : Session σ) : Except Failure SentMedia × Session σ :=
  let (answer, api) := BotApi.send call s.api
  (answer, { s with api, calls := s.calls ++ [⟨call, answer.isOk⟩] })

/-- Makes calls in order, up to the first that fails. -/
def postAll : List ApiCall → Session σ → Except Failure Unit × Session σ
  | [], s => (.ok (), s)
  | call :: rest, s =>
    match s.post call with
    | (.ok _, s) => postAll rest s
    | (.error e, s) => (.error e, s)

/-- The calls that a text takes. -/
def textCalls (chat : Int) (text : String) : List ApiCall :=
  (splitText text messageLimit).map fun piece => ⟨chat, .message piece⟩

def albumCall (chat : Int) : List Attachment → ApiCall
  | [a] => ⟨chat, .file a.kind (.stored a.id)⟩
  | album => ⟨chat, .mediaGroup album⟩

def stagingCall (s : Session σ) (p : Payload) : ApiCall :=
  ⟨s.cacheChat, .file (.ofMime p.mime) (.enclosed p.filename p.data)⟩

/-- Stages a payload. The message that was sent says under which id it can go out. -/
def stage (p : Payload) (s : Session σ) : Except TransportError Attachment × Session σ :=
  let kind := AttachmentKind.ofMime p.mime
  match s.post (s.stagingCall p) with
  | (.ok media, s) =>
    match media.idAs? kind with
    | some id => (.ok ⟨id, kind⟩, s)
    | none => (.error .missingAttachment, s)
  | (.error e, s) => (.error (.telegram e), s)

/-- The API never fires the token. -/
def answerOf {α : Type} : Except TransportError α → Answer α
  | .ok a => .accepted a false
  | .error e => .refused e false

def sendText (chat : Int) (text : String) (s : Session σ) : Except Failure Unit × Session σ :=
  s.postAll (textCalls chat text)

def sendAttachments (chat : Int) (attachments : List Attachment) (s : Session σ) :
    Except Failure Unit × Session σ :=
  s.postAll ((albums attachments).map (albumCall chat))

end Session

instance : Transport (Session σ) where
  selfId := Session.selfId
  textLimit _ := some messageLimit
  sendText chat text s :=
    let (r, s) := s.sendText chat text
    (Session.answerOf (r.mapError .telegram), s)
  upload _ p s :=
    let (r, s) := s.stage p
    (Session.answerOf r, s)
  sendAttachments chat attachments s :=
    let (r, s) := s.sendAttachments chat attachments
    (Session.answerOf (r.mapError .telegram), s)

end MediaRelay.Telegram
