/-! Uploaded attachments. The content type decides in which way an attachment is sent. -/

namespace MediaRelay

inductive AttachmentKind where
  | photo
  | video
  | document
deriving DecidableEq, Repr, Inhabited

/-- Films are videos and still pictures are photos; a GIF, like all else, is a document. -/
def AttachmentKind.ofMime (mime : String) : AttachmentKind :=
  if mime.startsWith "video/" then .video
  else if mime.startsWith "image/" && !mime.startsWith "image/gif" then .photo
  else .document

def AttachmentKind.name : AttachmentKind → String
  | .photo => "photo"
  | .video => "video"
  | .document => "document"

structure Attachment where
  id : String
  kind : AttachmentKind
deriving DecidableEq, Repr, Inhabited

end MediaRelay
