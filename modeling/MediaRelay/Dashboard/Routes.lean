import MediaRelay.Shared
import MediaRelay.Json.Reader
import MediaRelay.Json.Writer
import MediaRelay.Web.MediaType
import MediaRelay.Dashboard.Page
/-! The dashboard: what can be asked of it over HTTP, and what it answers. -/

namespace MediaRelay

namespace Dashboard

def bodyLimit : Nat := 1024 * 1024

structure Request where
  method : String
  /-- with the query, if there is one -/
  target : String
  contentType : Option String := none
  body : ByteArray := .empty

structure Response where
  status : Nat
  contentType : Option String := none
  /-- the methods that are allowed, where the one used is not -/
  allow : Option String := none
  body : String := ""
deriving DecidableEq, Repr, Inhabited

inductive Route where
  | index
  | status
  | commands
  | config
  | restart
  | logs
deriving DecidableEq, Repr

def routeOf? (path : String) : Option Route :=
  match path with
  | "/" => some .index
  | "/api/status" => some .status
  | "/api/commands" => some .commands
  | "/api/config" => some .config
  | "/api/restart" => some .restart
  | "/api/logs" => some .logs
  | _ => none

inductive Action where
  | read
  | write
deriving DecidableEq, Repr

def Route.actions : Route → List Action
  | .config => [.read, .write]
  | .restart => [.write]
  | _ => [.read]

def actionOf? (method : String) : Option Action :=
  match method with
  | "GET" => some .read
  | "HEAD" => some .read
  | "POST" => some .write
  | _ => none

def Action.methods : Action → String
  | .read => "GET,HEAD"
  | .write => "POST"

def Route.allowed (r : Route) : String := ",".intercalate (r.actions.map Action.methods)

def text (status : Nat) (body : String) : Response :=
  { status, contentType := some "text/plain; charset=utf-8", body }

def json (v : Json) : Response := { status := 200, contentType := some "application/json", body := v.writeText }

def done : Response := json (.record [("ok", .bool true)])

structure Moment where
  now : Nanos
  uptime : Nanos

variable {τ : Type}

def statusJson (m : Moment) (s : Shared τ) : Json := .record [
  ("uptime_secs", .nat (m.uptime / nanosPerSecond)), ("started_at", .str s.startedAt),
  ("connected", .bool s.connected), ("messages", .nat s.messages),
  ("active_cooldowns", .nat (s.registry.cooldowns.active m.now))]

def commandsJson (s : Shared τ) : Json :=
  .record (s.registry.listing.map fun (name, description) => (name, .str description))

/-- The settings in a request, or the answer that refuses it: for what it says it is, for its length, or for the
first fault of its text. The last two texts of a refusal go on, behind a colon, with the decoder's own words for that
fault and its place. Those depend on the body alone, and are left out. -/
def postedConfig (q : Request) : Except Response Config :=
  if !((q.contentType.bind Web.MediaType.parse?).any (·.isJson)) then
    .error (text 415 "Expected request with `Content-Type: application/json`")
  else if q.body.size > bodyLimit then
    .error (text 413 "Failed to buffer the request body: length limit exceeded")
  else
    let d := Json.readBytes q.body
    match Json.decodeDocument Config.decode d.value d.trailing with
    | .ok c => .ok c
    | .error .form => .error (text 400 "Failed to parse the request body as JSON")
    | .error .content => .error (text 422 "Failed to deserialize the JSON body into the target type")

/-- The status for settings that were not saved: the fault is the sender's where they are not sound. -/
def saveStatus : SaveError → Nat
  | .config .unwritable => 500
  | .config _ => 400
  | .file _ => 500

def saveConfig (q : Request) (s : Shared τ) : Response × Shared τ :=
  match postedConfig q with
  | .error r => (r, s)
  | .ok posted =>
    match s.store.post posted with
    | .error e => (text (saveStatus e) e.message, s)
    | .ok store => (done, { s with store })

def perform (m : Moment) (route : Route) (action : Action) (q : Request) (s : Shared τ) : Response × Shared τ :=
  match route, action with
  | .index, _ => ({ status := 200, contentType := some "text/html; charset=utf-8", body := page }, s)
  | .status, _ => (json (statusJson m s), s)
  | .commands, _ => (json (commandsJson s), s)
  | .config, .read => (json s.store.config.redacted.toJson, s)
  | .config, .write => saveConfig q s
  | .restart, _ => (done, { s with restartAsked := true })
  | .logs, _ => (json (.record [("lines", .array (s.logs.lines.map .str))]), s)

def Request.path (q : Request) : String := String.ofList (q.target.toList.takeWhile (· ≠ '?'))

/-- Answers a request. A `HEAD` is a `GET` whose body is not sent. -/
def handle (m : Moment) (q : Request) (s : Shared τ) : Response × Shared τ :=
  match routeOf? q.path with
  | none => ({ status := 404 }, s)
  | some route =>
    match (actionOf? q.method).filter route.actions.contains with
    | none => ({ status := 405, allow := some route.allowed }, s)
    | some action =>
      let (r, s) := perform m route action q s
      (if q.method = "HEAD" then { r with body := "" } else r, s)

/-- What is said when the dashboard cannot listen where it should. -/
def bindFailure (address : String) : String := s!"Failed to bind dashboard to {address}"

end Dashboard
end MediaRelay
