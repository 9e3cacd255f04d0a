import MediaRelay.Extract.Page
import MediaRelay.Extract.PostId
/-! Posts of TikTok. The feed answers with a list that begins with the post asked for, which is a show of pictures
or a film. -/

namespace MediaRelay.Extract.Tiktok

open Web Json

variable {τ : Type}

def feed : String := "https://api16-normal-c-useast2a.tiktokv.com/aweme/v1/feed/"

def appAgent : String × String :=
  ("user-agent", "TikTok 26.2.0 rv:262018 (iPhone; iOS 14.4.2; en_US) Cronet")

/-- A picture, with the addresses of its shown form and its own. -/
structure Picture where
  shown : Option (List String)
  own : List String

structure Post where
  /-- the pictures of a show, where there is one -/
  pictures : Option (List Picture)
  /-- the addresses of a film, where there is one -/
  film : Option (List String)

def decodeUrls : Decoder (List String) := decodeList decodeString

def decodeUrlList : Decoder (List String) := fun depth j => do
  let found ← fields [.of "url_list" decodeUrls .allowed] depth j
  field found "url_list" decodeUrls depth (.ok [])

def decodePicture : Decoder Picture := fun depth j => do
  let found ← fields [.of "display_image" (decodeOption decodeUrlList) .fromObject,
    .of "url_list" decodeUrls .allowed] depth j
  let shown ← field found "display_image" (decodeOption decodeUrlList) depth (.ok none)
  let own ← field found "url_list" decodeUrls depth (.ok [])
  return { shown, own }

def decodeShow : Decoder (List Picture) := fun depth j => do
  let found ← fields [.of "images" (decodeList decodePicture) .allowed] depth j
  field found "images" (decodeList decodePicture) depth (.ok [])

def decodeFilm : Decoder (Option (List String)) := fun depth j => do
  let found ← fields [.of "play_addr" (decodeOption decodeUrlList) .fromObject] depth j
  field found "play_addr" (decodeOption decodeUrlList) depth (.ok none)

def decodePost : Decoder Post := fun depth j => do
  let found ← fields [.of "image_post_info" (decodeOption decodeShow) .fromObject,
    .of "video" (decodeOption decodeFilm) .fromObject] depth j
  let pictures ← field found "image_post_info" (decodeOption decodeShow) depth (.ok none)
  let film ← field found "video" (decodeOption decodeFilm) depth (.ok none)
  return { pictures, film := film.join }

def decodeFeed : Decoder (List Post) := fun depth j => do
  let found ← fields [.of "aweme_list" (decodeList decodePost) .allowed] depth j
  field found "aweme_list" (decodeList decodePost) depth (.ok [])

/-- The address of a picture: the first of its shown form, else the first of its own. -/
def Picture.url? (p : Picture) : Option String := (p.shown.bind (·.head?)) <|> p.own.head?

/-- The addresses of a post's pictures, without those that are empty. -/
def Post.pictureUrls (p : Post) : List String :=
  ((p.pictures.getD []).filterMap Picture.url?).filter (· ≠ "")

/-- Pictures win over the film; only the first post counts. -/
def itemsOf (posts : List Post) : Except MediaError (List Item) :=
  match posts.head? with
  | none => .error (.extractionFailed "no tiktok data found")
  | some post =>
    match post.pictureUrls with
    | [] =>
      match post.film.bind (·.head?) with
      | some url => .ok [.video url]
      | none => .error (.extractionFailed "no video or images found")
    | urls => .ok (urls.map .image)

def lookUp (api link : String) : Job τ (List Item) :=
  match postId link with
  | none => Job.fail (.extractionFailed s!"no aweme_id found in {link}")
  | some id =>
    (ask "call tiktok api" { url := api, query := [("aweme_id", id)], headers := [appAgent] }).bind fun r =>
      Job.ofExcept do itemsOf (← decodeReply "tiktok api" decodeFeed (← insist "tiktok api" r))

def fetch (link : String) : Job τ (List Item) := (resolveRedirect link).bind (lookUp feed)

end MediaRelay.Extract.Tiktok
