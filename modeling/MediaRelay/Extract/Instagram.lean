import MediaRelay.Extract.Page
import MediaRelay.Extract.Shortcode
import MediaRelay.Json.Writer
import MediaRelay.Decimal.Unsigned
import MediaRelay.Retry
/-! Posts of Instagram. A request token is taken from the home page; a query for the post answers with one picture
or film, or with several in a row. The query is made again when the server asks for patience. -/

namespace MediaRelay.Extract.Instagram

open Web Json

variable {τ : Type}

structure Endpoints where
  home : String := "https://www.instagram.com/"
  query : String := "https://www.instagram.com/graphql/query"

structure Node where
  isVideo : Bool
  videoUrl : String
  displayUrl : String

structure Post where
  typename : String
  node : Node
  /-- the nodes of a row, where there is one -/
  children : Option (List Node)

def Node.item (n : Node) : Item := if n.isVideo then .video n.videoUrl else .image n.displayUrl

/-! ### The answer to a query -/

def nodeSlots : List Slot :=
  [.of "is_video" decodeBool .allowed, .of "video_url" decodeString .allowed,
   .of "display_url" decodeString .allowed]

def nodeOf (found : List (String × Json)) (depth : Nat) : Except Fault Node := do
  let isVideo ← field found "is_video" decodeBool depth (.ok false)
  let videoUrl ← field found "video_url" decodeString depth (.ok "")
  let displayUrl ← field found "display_url" decodeString depth (.ok "")
  return { isVideo, videoUrl, displayUrl }

def decodeNode : Decoder Node := fun depth j => do nodeOf (← fields nodeSlots depth j) depth

def decodeEdge : Decoder Node := fun depth j => do
  let found ← fields [.of "node" decodeNode .refused] depth j
  field found "node" decodeNode depth (.error .content)

def decodeEdges : Decoder (List Node) := fun depth j => do
  let found ← fields [.of "edges" (decodeList decodeEdge) .allowed] depth j
  field found "edges" (decodeList decodeEdge) depth (.ok [])

/-- A post lies flat beside its own node, so it is an object, and all of it has to be held to sort it. -/
def decodePost : Decoder Post := fun depth j =>
  match j with
  | .object members => do
    let own : List Slot := [.of "__typename" decodeString .allowed,
      .of "edge_sidecar_to_children" (decodeOption decodeEdges) .allowed]
    let isOwn := fun (m : Option String × Json) => own.any fun s => some s.name == m.1
    if !(members.all fun m => isOwn m || (m.1.isSome && holdable (depth + 1) m.2)) then .error .form
    let found ← fields (own ++ nodeSlots) depth j
    let typename ← field found "__typename" decodeString depth (.ok "")
    let children ← field found "edge_sidecar_to_children" (decodeOption decodeEdges) depth (.ok none)
    return { typename, node := ← nodeOf found depth, children }
  | j => .error (unwanted j)

def decodeData : Decoder (Option Post) := fun depth j => do
  let dec := decodeOption decodePost
  let found ← fields [.of "xdt_shortcode_media" dec .fromObject] depth j
  field found "xdt_shortcode_media" dec depth (.ok none)

def decodeAnswer : Decoder (Option Post) := fun depth j => do
  let dec := decodeOption decodeData
  let found ← fields [.of "data" dec .fromObject] depth j
  return (← field found "data" dec depth (.ok none)).join

/-- A row gives an item for each of its nodes; any other post is a single item. -/
def itemsOf : Option Post → Except MediaError (List Item)
  | none => .error .noMediaFound
  | some post =>
    if post.typename = "XDTGraphSidecar" then .ok ((post.children.getD []).map Node.item)
    else .ok [post.node.item]

/-! ### The token -/

def tokenMark : List Char := "csrftoken=".toList

/-- A token at the start of a text: what follows the mark up to a semicolon. -/
def tokenAt (s : List Char) : Option (List Char) :=
  match Text.stripPrefix? tokenMark s with
  | some rest =>
    match (Text.span (· ≠ ';') rest).1 with
    | [] => none
    | token => some token
  | none => none

/-- The token among the cookies that an answer sets. -/
def tokenCookie? (headers : List Header) : Option String :=
  ((headerValues "set-cookie" headers).filterMap Cookie.nameAndValue?).lookup "csrftoken"

/-- The token for a query: a cookie of the home page, else the first one in its text. -/
def tokenOf (r : Reply) : Except MediaError String :=
  match tokenCookie? r.headers with
  | some token => .ok token
  | none => do
    let page ← pageText r
    match Text.firstMatch tokenAt page.toList with
    | some token => .ok (String.ofList token)
    | none => .error (.extractionFailed "csrf token not found")

def requestToken (home : String) : Job τ String :=
  (ask "fetch instagram home" { url := home, headers := [browserAgent] }).bind fun r =>
    Job.ofExcept do tokenOf (← insist "instagram home" r)

/-! ### The query -/

def queryDraft (address code token : String) : Draft :=
  let parameters := writeText (.record [("fetch_tagged_user_count", .null), ("hoisted_comment_id", .null),
    ("hoisted_reply_id", .null), ("shortcode", .str code)])
  { method := "POST"
    url := address
    form := [("variables", parameters), ("doc_id", "9510064595728286")]
    headers := [("x-csrftoken", token), ("x-ig-app-id", "936619743392459"),
      ("x-requested-with", "XMLHttpRequest"), ("referer", "https://www.instagram.com/"), browserAgent,
      ("cookie", "csrftoken=" ++ token)] }

def retryAfter? (headers : List Header) : Option Nat := do
  let text ← headerText? (← header? "retry-after" headers)
  Decimal.unsigned? (Text.trim text.toList)

def asksForPatience (status : Nat) : Bool := status = 429 || status = 403

/-- The waits between queries, unless the server names another. -/
def patience : Backoff := .doubling nanosPerSecond 5

def waitAfter (k : Nat) (headers : List Header) : Nanos :=
  ((retryAfter? headers).map (· * nanosPerSecond)).getD (patience.delay k)

/-- Makes the query, again after each wait while the server asks for patience; `k` waits are over. -/
def query (address code token : String) : (left k : Nat) → Job τ (Option Post)
  | left, k =>
    (ask "call instagram graphql" (queryDraft address code token)).bind fun r =>
      match left with
      | left + 1 =>
        if asksForPatience r.status then
          (Job.watch (Job.rest (waitAfter k r.headers))).bind fun _ =>
            query address code token left (k + 1)
        else finish r
      | 0 => finish r
where
  finish (r : Reply) : Job τ (Option Post) :=
    Job.ofExcept do decodeReply "instagram" decodeAnswer (← insist "instagram graphql" r)

def postLink (link : String) : Job τ String :=
  if isShareLink link then resolveRedirect link else Job.pure link

def fetch (e : Endpoints) (link : String) : Job τ (List Item) :=
  (postLink link).bind fun link =>
    match shortcode link with
    | none => Job.fail (.extractionFailed "invalid instagram url")
    | some code =>
      (requestToken e.home).bind fun token =>
        (query e.query code token patience.retries 0).bind fun post => Job.ofExcept (itemsOf post)

end MediaRelay.Extract.Instagram
