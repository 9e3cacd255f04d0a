import MediaRelay.Web.Exchange
/-! A web made of pages that each answer from a list, in order; the last answer repeats. -/

namespace MediaRelay.Rehearsal

open Web

structure Page where
  url : String
  /-- any method, if none is given -/
  method : Option String
  reactions : List Reaction

/-- The address without its query. -/
def withoutQuery (url : String) : String := String.ofList (url.toList.takeWhile (· ≠ '?'))

def Page.serves (p : Page) (q : Request) : Bool :=
  (p.url == q.url || p.url == withoutQuery q.url) && p.method.all (· == q.method)

def pageOf? (pages : List Page) (q : Request) : Option Nat := pages.findIdx? (·.serves q)

def notFound : Reaction := .answer ⟨404, [], ⟨some 0, [], true⟩⟩

def networkOf (pages : List Page) : Network where
  react earlier q :=
    match pageOf? pages q with
    | none => notFound
    | some i =>
      let asked := (earlier.filter fun e => pageOf? pages e == some i).length
      match pages[i]? with
      | none => notFound
      | some page => (page.reactions[asked]? <|> page.reactions.getLast?).getD notFound

/-- What an answer with this body comes to, where `declared` is the length it announces and the status may mean
that there is no body. -/
def framed (status : Nat) (data : ByteArray) (declared : Nat) : Body :=
  if status = 204 || status = 304 then ⟨some 0, [], true⟩
  else ⟨some declared, [data.extract 0 declared], declared ≤ data.size⟩

end MediaRelay.Rehearsal
