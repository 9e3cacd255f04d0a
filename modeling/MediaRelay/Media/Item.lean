import MediaRelay.Text.Search
/-! The media that travel through the relay: an item is a link to one picture or film, a payload is what was
downloaded from it. -/

namespace MediaRelay

inductive MediaKind where
  | image
  | video
deriving DecidableEq, Repr, Inhabited

/-- The content type assumed where a server names none. -/
def MediaKind.defaultMime : MediaKind → String
  | .image => "image/jpeg"
  | .video => "video/mp4"

def MediaKind.name : MediaKind → String
  | .image => "image"
  | .video => "video"

structure Item where
  kind : MediaKind
  url : String
deriving DecidableEq, Repr, Inhabited

def Item.image (url : String) : Item := ⟨.image, url⟩

def Item.video (url : String) : Item := ⟨.video, url⟩

structure Payload where
  data : ByteArray
  mime : String
deriving Inhabited

def Payload.size (p : Payload) : Nat := p.data.size

/-- Whether `s` holds `piece` somewhere. -/
def holdsText (s piece : String) : Bool := Text.holds piece.toList s.toList

/-- A file name whose extension goes with the content type. -/
def filenameFor (mime : String) : String :=
  if mime.startsWith "video/" then "media.mp4"
  else if holdsText mime "image/gif" then "media.gif"
  else if holdsText mime "image/png" then "media.png"
  else if holdsText mime "image/webp" then "media.webp"
  else if mime.startsWith "image/" then "media.jpg"
  else if mime.startsWith "audio/" then "media.mp3"
  else "media.bin"

def Payload.filename (p : Payload) : String := filenameFor p.mime

end MediaRelay
