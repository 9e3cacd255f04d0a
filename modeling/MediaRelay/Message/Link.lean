import MediaRelay.Text.Search
/-! Links in running text: `http://` or `https://` and all that follows up to the next blank, which must be
something. -/

namespace MediaRelay.Text

def httpStart : List Char := ['h', 't', 't', 'p', ':', '/', '/']

def httpsStart : List Char := ['h', 't', 't', 'p', 's', ':', '/', '/']

def linkAt (s : List Char) : Option (List Char) :=
  match stripPrefix? httpsStart s <|> stripPrefix? httpStart s with
  | some (c :: _) => if isBlank c then none else some (s.takeWhile (!isBlank ·))
  | _ => none

def findLink (s : List Char) : Option (List Char) := firstMatch linkAt s

end MediaRelay.Text

namespace MediaRelay

def findLink (text : String) : Option String := (Text.findLink text.toList).map String.ofList

end MediaRelay
