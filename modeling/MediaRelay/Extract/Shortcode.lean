import MediaRelay.Text.Search
import MediaRelay.Web.Url
/-! What the address of an Instagram post says: the shortcode of the post, and whether it is a share link that
has to be followed first. -/

namespace MediaRelay.Extract

def postWords : List (List Char) :=
  [['p'], ['r', 'e', 'e', 'l'], ['t', 'v'], ['r', 'e', 'e', 'l', 's']]

/-- The segments of the path that are not empty; none where the text is no address. -/
def pathSegments (link : String) : List (List Char) :=
  match (Web.Url.parse link.toList).bind (·.segments?) with
  | none => []
  | some segments => segments.filter (!·.isEmpty)

def isShareLink (link : String) : Bool := (pathSegments link).contains "share".toList

/-- What follows the first post word. -/
def afterPostWord : List (List Char) → Option (List Char)
  | w :: code :: rest => if postWords.contains w then some code else afterPostWord (code :: rest)
  | _ => none

def endsCode (c : Char) : Bool := c = '/' || c = '?' || c = '#'

/-- A post word between slashes at the start of a text, and the code that follows it. -/
def codeAt (s : List Char) : Option (List Char) :=
  match s with
  | '/' :: rest =>
    postWords.findSome? fun w =>
      match Text.stripPrefix? (w ++ ['/']) rest with
      | some tail =>
        match tail.takeWhile (!endsCode ·) with
        | [] => none
        | code => some code
      | none => none
  | _ => none

/-- The code of a post: from the path, else from anywhere in the text. -/
def shortcode (link : String) : Option String :=
  (afterPostWord (pathSegments link) <|> Text.firstMatch codeAt link.toList).map String.ofList

end MediaRelay.Extract
