import MediaRelay.Text.Search
import MediaRelay.Text.Digit
/-! The number of a TikTok post: the digits after `/video/` or `/photo/`. -/

namespace MediaRelay.Extract

def videoMark : List Char := ['/', 'v', 'i', 'd', 'e', 'o', '/']

def photoMark : List Char := ['/', 'p', 'h', 'o', 't', 'o', '/']

def digitsAt (s : List Char) : Option (List Char) :=
  match Text.stripPrefix? videoMark s <|> Text.stripPrefix? photoMark s with
  | none => none
  | some rest =>
    match rest.takeWhile Text.isDigit with
    | [] => none
    | digits => some digits

/-- The digits after the leftmost mark that has some. -/
def postId (link : String) : Option String := (Text.firstMatch digitsAt link.toList).map String.ofList

end MediaRelay.Extract
