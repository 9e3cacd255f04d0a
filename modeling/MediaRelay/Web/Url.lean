import MediaRelay.Web.Host
/-! Addresses by the URL standard. Text around and line breaks inside are dropped, a backslash counts as a
slash where the scheme is one of the web, `.` and `..` are worked out, and each part is encoded as its place
asks. -/

namespace MediaRelay.Web

/-- A list of segments between slashes, or a path that is not made of segments. -/
inductive Path where
  | segments (list : List (List Char))
  | opaqueText (text : List Char)
deriving DecidableEq, Repr, Inhabited

structure Url where
  scheme : List Char
  username : List Char := []
  password : List Char := []
  host : Option (List Char) := none
  port : Option Nat := none
  path : Path := .segments []
  query : Option (List Char) := none
  fragment : Option (List Char) := none
deriving DecidableEq, Repr, Inhabited

namespace Url

def fileScheme : List Char := ['f', 'i', 'l', 'e']

/-- The schemes of the web, with the ports that need no mention. -/
def defaultPort? (scheme : List Char) : Option Nat :=
  if scheme = "http".toList || scheme = "ws".toList then some 80
  else if scheme = "https".toList || scheme = "wss".toList then some 443
  else if scheme = "ftp".toList then some 21
  else none

def isSpecial (scheme : List Char) : Bool := scheme = fileScheme || (defaultPort? scheme).isSome

def isEdge (c : Char) : Bool := c.toNat ≤ 0x20

def isDropped (c : Char) : Bool := c = '\t' || c = '\n' || c = '\r'

/-- The text without blanks and controls around it and without tabs and line breaks. -/
def clean (s : List Char) : List Char :=
  (((s.dropWhile isEdge).reverse.dropWhile isEdge).reverse).filter (!isDropped ·)

def isSchemeChar (c : Char) : Bool := c.isAlphanum || c = '+' || c = '-' || c = '.'

/-- A scheme in lower case, and what follows its colon. -/
def splitScheme? (s : List Char) : Option (List Char × List Char) :=
  if !(s.head?.any Char.isAlpha) then none
  else match s.dropWhile isSchemeChar with
    | ':' :: rest => some ((s.takeWhile isSchemeChar).map Char.toLower, rest)
    | _ => none

def isSlash (special : Bool) (c : Char) : Bool := c = '/' || (special && c = '\\')

/-- Where the authority ends. -/
def endsAuthority (special : Bool) (c : Char) : Bool := isSlash special c || c = '?' || c = '#'

/-- Splits after the last `@`. -/
def splitUserinfo (s : List Char) : Option (List Char) × List Char :=
  if s.contains '@' then
    let back := s.reverse.takeWhile (· ≠ '@')
    (some (s.take (s.length - back.length - 1)), back.reverse)
  else (none, s)

/-- Splits at the first colon outside brackets. -/
def splitPort (inBrackets : Bool) : List Char → List Char × Option (List Char)
  | [] => ([], none)
  | c :: cs =>
    if c = ':' && !inBrackets then ([], some cs)
    else
      let (host, port) := splitPort (if c = '[' then true else if c = ']' then false else inBrackets) cs
      (c :: host, port)

/-- A port number; the default one and an empty one count as none. -/
def parsePort (scheme s : List Char) : Option (Option Nat) :=
  if s.all Char.isDigit then
    let n := s.foldl (fun n c => n * 10 + (c.toNat - '0'.toNat)) 0
    if s.isEmpty then some none
    else if n > 65535 then none
    else some (if defaultPort? scheme = some n then none else some n)
  else none

/-- Reads user, host and port. -/
def parseAuthority (scheme s : List Char) : Option Url := do
  let special := isSpecial scheme
  let (userinfo, rest) := splitUserinfo s
  if userinfo.isSome && rest.isEmpty then none
  let (hostText, portText) := splitPort false rest
  let host ←
    if special then (if hostText.isEmpty then none else Host.parse hostText)
    else Host.parseOpaque hostText
  if host.isEmpty && (portText.isSome || (userinfo.getD []) ≠ []) then none
  let port ← match portText with
    | none => some none
    | some text => parsePort scheme text
  let userinfo := userinfo.getD []
  let name := userinfo.takeWhile (· ≠ ':')
  let secret := userinfo.drop (name.length + 1)
  return {
    scheme
    username := Percent.encode Percent.inUserinfo name
    password := Percent.encode Percent.inUserinfo secret
    host := some host
    port }

def splitPath (special : Bool) : List Char → List (List Char)
  | [] => [[]]
  | c :: cs =>
    if isSlash special c then [] :: splitPath special cs
    else match splitPath special cs with
      | [] => [[c]]
      | p :: ps => (c :: p) :: ps

def isDot (s : List Char) : Bool := s = ['.'] || s.map Char.toLower = "%2e".toList

def isDotDot (s : List Char) : Bool :=
  ["..", ".%2e", "%2e.", "%2e%2e"].any (·.toList = s.map Char.toLower)

def isDriveLetter (s : List Char) : Bool :=
  match s with
  | [c, d] => c.isAlpha && (d = ':' || d = '|')
  | _ => false

/-- Takes the last segment off; the drive letter of a file stays. -/
def shorten (scheme : List Char) (path : List (List Char)) : List (List Char) :=
  match path with
  | [p] => if scheme = fileScheme && isDriveLetter p && p.contains ':' then path else []
  | _ => path.dropLast

/-- Walks through the segments of a path, from those already there. -/
def walk (scheme : List Char) (path : List (List Char)) : List (List Char) → List (List Char)
  | [] => path
  | s :: rest =>
    let last := rest.isEmpty
    if isDotDot s then
      let path := shorten scheme path
      walk scheme (if last then path ++ [[]] else path) rest
    else if isDot s then walk scheme (if last then path ++ [[]] else path) rest
    else if scheme = fileScheme && path.isEmpty && isDriveLetter s then
      walk scheme [s.take 1 ++ [':']] rest
    else walk scheme (path ++ [Percent.encode Percent.inPath s]) rest

/-- Splits the text before a mark from what follows it. -/
def splitMark (mark : Char) (s : List Char) : List Char × Option (List Char) :=
  match s.dropWhile (· ≠ mark) with
  | [] => (s, none)
  | _ :: rest => (s.takeWhile (· ≠ mark), some rest)

def encodeQuery (scheme s : List Char) : List Char :=
  Percent.encode (if isSpecial scheme then Percent.inSpecialQuery else Percent.inQuery) s

def encodeFragment (s : List Char) : List Char := Percent.encode Percent.inFragment s

def splitTail (s : List Char) : List Char × Option (List Char) × Option (List Char) :=
  let (front, fragment) := splitMark '#' s
  let (path, query) := splitMark '?' front
  (path, query, fragment)

/-- The leading empty segments of a file path do not count. -/
def fileSegments (scheme : List Char) (path : List (List Char)) : List (List Char) :=
  if scheme = fileScheme then
    match path.dropWhile (·.isEmpty) with
    | [] => if path.isEmpty then [] else [[]]
    | rest => rest
  else path

/-- An absolute path: the slash at its start is not a segment. -/
def absolutePath (scheme s : List Char) : Path :=
  let special := isSpecial scheme
  match s with
  | [] => if special then .segments [[]] else .segments []
  | c :: cs =>
    let rest := if isSlash special c then cs else s
    .segments (fileSegments scheme (walk scheme [] (splitPath special rest)))

def withTail (u : Url) (s : List Char) : Url :=
  let (path, query, fragment) := splitTail s
  { u with
    path := absolutePath u.scheme path
    query := query.map (encodeQuery u.scheme)
    fragment := fragment.map encodeFragment }

/-- What follows the slashes before an authority. -/
def afterSlashes (scheme s : List Char) : Option Url := do
  let special := isSpecial scheme
  let u ← parseAuthority scheme (s.takeWhile (!endsAuthority special ·))
  return u.withTail (s.dropWhile (!endsAuthority special ·))

def parseFile (base : Option Url) (s : List Char) : Option Url :=
  let bare : Url := { scheme := fileScheme }
  let base := base.filter (·.scheme = fileScheme)
  match s with
  | a :: rest =>
    if isSlash true a then
      match rest with
      | b :: rest' =>
        if isSlash true b then
          let hostText := rest'.takeWhile (!endsAuthority true ·)
          let tail := rest'.dropWhile (!endsAuthority true ·)
          if isDriveLetter hostText then some (bare.withTail rest')
          else if hostText.isEmpty then some (bare.withTail tail)
          else do
            let host ← Host.parse hostText
            return { bare with host := if host = "localhost".toList then none else some host }.withTail tail
        else some ({ bare with host := base.bind (·.host) }.withTail s)
      | [] => some ({ bare with host := base.bind (·.host) }.withTail s)
    else relative base bare s
  | [] => relative base bare s
where
  relative (base : Option Url) (bare : Url) (s : List Char) : Option Url :=
    match base, s with
    | none, s => some (bare.withTail s)
    | some b, [] => some { b with fragment := none }
    | some b, '?' :: _ =>
      let (_, query, fragment) := splitTail s
      some { b with query := query.map (encodeQuery fileScheme), fragment := fragment.map encodeFragment }
    | some b, '#' :: rest => some { b with fragment := some (encodeFragment rest) }
    | some b, s =>
      let (path, query, fragment) := splitTail s
      let start := match b.path with
        | .segments list => if isDriveLetter (path.take 2) then [] else shorten fileScheme list
        | .opaqueText _ => []
      some { b with
        path := .segments (walk fileScheme start (splitPath true path))
        query := query.map (encodeQuery fileScheme)
        fragment := fragment.map encodeFragment }

/-- An address of a scheme that is not of the web, after the scheme. -/
def parseOther (scheme s : List Char) : Option Url :=
  match s with
  | '/' :: '/' :: rest => afterSlashes scheme rest
  | '/' :: _ => some (({ scheme } : Url).withTail s)
  | _ =>
    let (path, query, fragment) := splitTail s
    some {
      scheme
      path := .opaqueText (Percent.encode Percent.inControls path)
      query := query.map (encodeQuery scheme)
      fragment := fragment.map encodeFragment }

/-- A text without a scheme, seen from an address of the web. -/
def parseRelative (b : Url) (s : List Char) : Option Url :=
  let special := isSpecial b.scheme
  match s with
  | [] => some { b with fragment := none }
  | '#' :: rest => some { b with fragment := some (encodeFragment rest) }
  | '?' :: _ =>
    let (_, query, fragment) := splitTail s
    some { b with query := query.map (encodeQuery b.scheme), fragment := fragment.map encodeFragment }
  | c :: rest =>
    if isSlash special c then
      match rest with
      | d :: rest' =>
        if isSlash special d then
          afterSlashes b.scheme (if special then rest'.dropWhile (isSlash true) else rest')
        else some (b.withTail s)
      | [] => some (b.withTail s)
    else
      let (path, query, fragment) := splitTail s
      let start := match b.path with
        | .segments list => shorten b.scheme list
        | .opaqueText _ => []
      some { b with
        path := .segments (walk b.scheme start (splitPath special path))
        query := query.map (encodeQuery b.scheme)
        fragment := fragment.map encodeFragment }

def parseFrom (base : Option Url) (text : List Char) : Option Url :=
  let s := clean text
  match splitScheme? s with
  | some (scheme, rest) =>
    if scheme = fileScheme then parseFile base rest
    else if isSpecial scheme then
      match base with
      | some b =>
        if b.scheme = scheme && (rest.takeWhile (isSlash true)).length < 2 then parseRelative b rest
        else afterSlashes scheme (rest.dropWhile (isSlash true))
      | none => afterSlashes scheme (rest.dropWhile (isSlash true))
    else parseOther scheme rest
  | none =>
    match base with
    | none => none
    | some b =>
      match b.path, s with
      | .opaqueText _, '#' :: rest => some { b with fragment := some (encodeFragment rest) }
      | .opaqueText _, _ => none
      | .segments _, s => if b.scheme = fileScheme then parseFile base s else parseRelative b s

def parse (text : List Char) : Option Url := parseFrom none text

def parse? (text : String) : Option Url := parse text.toList

def join (base : Url) (text : String) : Option Url := parseFrom (some base) text.toList

def pathText (u : Url) : List Char :=
  match u.path with
  | .opaqueText text => text
  | .segments list =>
    let text := list.flatMap ('/' :: ·)
    match list, u.host with
    | [] :: _ :: _, none => if u.scheme = fileScheme then text else ['/', '.'] ++ text
    | _, _ => text

def authorityText (u : Url) : List Char :=
  let user :=
    if u.username.isEmpty && u.password.isEmpty then []
    else if u.password.isEmpty then u.username ++ ['@']
    else u.username ++ ':' :: (u.password ++ ['@'])
  let port := match u.port with
    | none => []
    | some n => ':' :: Nat.toDigits 10 n
  user ++ (u.host.getD []) ++ port

def toText (u : Url) : List Char :=
  let authority := if u.host.isSome || u.scheme = fileScheme then ['/', '/'] ++ u.authorityText else []
  u.scheme ++ ':' :: (authority ++ u.pathText ++
    (u.query.elim [] ('?' :: ·)) ++ (u.fragment.elim [] ('#' :: ·)))

def toString (u : Url) : String := String.ofList u.toText

instance : ToString Url := ⟨toString⟩

def schemeIs (u : Url) (name : String) : Bool := u.scheme = name.toList

/-- Whether the address is fetched over HTTP. -/
def isHttp (u : Url) : Bool := u.schemeIs "http" || u.schemeIs "https"

def portOrDefault (u : Url) : Option Nat := u.port <|> defaultPort? u.scheme

def withoutCredentials (u : Url) : Url := { u with username := [], password := [] }

def withoutFragment (u : Url) : Url := { u with fragment := none }

def segments? (u : Url) : Option (List (List Char)) :=
  match u.path with
  | .segments list => if list.isEmpty then some [[]] else some list
  | .opaqueText _ => none

end Url
end MediaRelay.Web
