/-! What a web client and the servers say to each other. A server answers from the request and from those that
came before it. -/

namespace MediaRelay.Web

structure Header where
  name : String
  value : ByteArray
deriving Inhabited

structure Request where
  method : String
  /-- without credentials and fragment -/
  url : String
  headers : List Header
  body : String
deriving Inhabited

/-- A body on its way: the length announced, the pieces that arrive, and whether they are all of it. -/
structure Body where
  declared : Option Nat
  chunks : List ByteArray
  complete : Bool
deriving Inhabited

structure Response where
  status : Nat
  headers : List Header
  body : Body
deriving Inhabited

inductive Reaction where
  | answer (r : Response)
  /-- the connection is closed without an answer -/
  | dropped
  /-- no answer, ever -/
  | silent
  /-- no answer, and the stop token fires -/
  | stops
  /-- the task that asked dies -/
  | crashes

/-- All servers at once. The requests made before are given oldest first. -/
structure Network where
  react : List Request → Request → Reaction

def headerValues (name : String) (headers : List Header) : List ByteArray :=
  (headers.filter (·.name == name)).map (·.value)

def header? (name : String) (headers : List Header) : Option ByteArray :=
  (headerValues name headers).head?

/-- The text of a header that holds visible ASCII, blanks and tabs only. -/
def headerText? (value : ByteArray) : Option String :=
  if value.toList.all fun b => b = 9 || (32 ≤ b && b < 127) then String.fromUTF8? value else none

inductive BodyFault where
  /-- the body, or as much of it as came, is larger than allowed -/
  | oversized (size : Nat)
  /-- it broke off -/
  | broken
deriving DecidableEq, Repr

namespace Body

def bytes (b : Body) : ByteArray := b.chunks.foldl (· ++ ·) .empty

/-- Reads pieces onto `buf` as long as there are at most `limit` bytes. -/
def readCappedFrom (limit : Nat) (complete : Bool) (buf : ByteArray) :
    List ByteArray → Except BodyFault ByteArray
  | [] => if complete then .ok buf else .error .broken
  | c :: cs =>
    if buf.size + c.size > limit then .error (.oversized (buf.size + c.size))
    else readCappedFrom limit complete (buf ++ c) cs

/-- The whole body, unless it is larger than `limit` bytes. An announced length that is too large is refused
before anything is read. -/
def readCapped (limit : Nat) (b : Body) : Except BodyFault ByteArray :=
  match b.declared with
  | some size => if size > limit then .error (.oversized size) else readCappedFrom limit b.complete .empty b.chunks
  | none => readCappedFrom limit b.complete .empty b.chunks

/-- Reads pieces onto `buf` until there are `limit` bytes. -/
def readPrefixFrom (limit : Nat) (complete : Bool) (buf : ByteArray) :
    List ByteArray → Except BodyFault ByteArray
  | [] => if complete then .ok buf else .error .broken
  | c :: cs =>
    let room := limit - buf.size
    if c.size ≥ room then .ok (buf ++ c.extract 0 room) else readPrefixFrom limit complete (buf ++ c) cs

/-- The first `limit` bytes; what comes after them is not looked at. -/
def readPrefix (limit : Nat) (b : Body) : Except BodyFault ByteArray :=
  readPrefixFrom limit b.complete .empty b.chunks

def readAll (b : Body) : Except BodyFault ByteArray := if b.complete then .ok b.bytes else .error .broken

end Body
end MediaRelay.Web
