import MediaRelay.Text.Search
/-! Addresses of films in a Facebook page. Several spellings are known, each for one quality; the page may have
its quotes and ampersands escaped. -/

namespace MediaRelay.Extract

open Text (stripPrefix?)

inductive Spelling where
  /-- `"key":"address"`, on one line -/
  | member (key : String)
  /-- `key : "address"` with blanks as they come -/
  | setting (key : String)
  /-- `"src":"...address`, the last address of the value -/
  | source
deriving DecidableEq, Repr

def sdSpellings : List Spelling :=
  [.member "browser_native_sd_url", .member "playable_url", .setting "sd_src", .source]

def hdSpellings : List Spelling :=
  [.member "browser_native_hd_url", .member "playable_url_quality_hd", .setting "hd_src"]

def throughQuote? (s : List Char) : Option (List Char) :=
  match Text.span (· ≠ '"') s with
  | (value, '"' :: _) => some value
  | _ => none

def httpsMark : List Char := "https://".toList

/-- The last suffix of a text that begins with `https://`; `found` is the last one so far. -/
def lastHttps (found : Option (List Char)) : List Char → Option (List Char)
  | [] => found
  | c :: cs => lastHttps (if httpsMark.isPrefixOf (c :: cs) then some (c :: cs) else found) cs

def Spelling.mark : Spelling → List Char
  | .member key => '"' :: (key.toList ++ "\":\"".toList)
  | .setting key => key.toList
  | .source => "\"src\":\"".toList

def Spelling.value? (spelling : Spelling) (rest : List Char) : Option (List Char) :=
  match spelling with
  | .member _ =>
    match Text.span (fun c => c ≠ '"' && c ≠ '\n') rest with
    | (value, '"' :: _) => some value
    | _ => none
  | .setting _ =>
    match Text.trimStart rest with
    | ':' :: rest =>
      match Text.trimStart rest with
      | '"' :: rest => throughQuote? rest
      | _ => none
    | _ => none
  | .source => lastHttps none (Text.span (· ≠ '"') rest).1

def Spelling.at? (spelling : Spelling) (mark s : List Char) : Option (List Char) :=
  match stripPrefix? mark s with
  | none => none
  | some rest => spelling.value? rest

def Spelling.find (spelling : Spelling) (page : List Char) : Option (List Char) :=
  Text.firstMatch (spelling.at? spelling.mark) page

/-- The address of the first spelling that occurs; one that is empty hides the others. -/
def firstSpelled (spellings : List Spelling) (page : List Char) : Option (List Char) :=
  (spellings.findSome? (·.find page)).filter (!·.isEmpty)

def unescapePage (page : List Char) : List Char :=
  Text.replace "&amp;".toList ['&'] (Text.replace "&quot;".toList ['"'] page)

/-- The film of a page, in high definition if it has one. -/
def findVideoUrl (page : String) : Option String :=
  let page := unescapePage page.toList
  (firstSpelled hdSpellings page <|> firstSpelled sdSpellings page).map fun url =>
    String.ofList (Text.replace ['\\', '/'] ['/'] url)

end MediaRelay.Extract
