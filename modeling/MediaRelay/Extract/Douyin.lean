import MediaRelay.Extract.Page
/-! Posts of Douyin, by a service that answers with the address of the film. -/

namespace MediaRelay.Extract.Douyin

open Web Json

variable {τ : Type}

def service : String := "https://douyin.cuong.one/api/douyin/detail"

structure Answer where
  status : String
  message : String
  video : String

def decodeAnswer : Decoder Answer := fun depth j => do
  let found ← fields [.of "status" decodeString .allowed, .of "message" decodeString .allowed,
    .of "video" decodeString .allowed] depth j
  let status ← field found "status" decodeString depth (.ok "")
  let message ← field found "message" decodeString depth (.ok "")
  let video ← field found "video" decodeString depth (.ok "")
  return { status, message, video }

/-- The film, or what the service says instead. -/
def itemsOf (a : Answer) : Except MediaError (List Item) :=
  if a.status ≠ "ok" || a.video.isEmpty then
    .error (.extractionFailed (if a.message.isEmpty then "douyin video not found" else a.message))
  else .ok [.video a.video]

def fetch (api link : String) : Job τ (List Item) :=
  (ask "call douyin api" { url := api, query := [("url", link)], headers := [browserAgent] }).bind fun r =>
    Job.ofExcept do itemsOf (← decodeReply "douyin api" decodeAnswer (← insist "douyin api" r))

end MediaRelay.Extract.Douyin
