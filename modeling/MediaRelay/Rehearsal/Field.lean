import MediaRelay.Json.Basic
import MediaRelay.Json.Reader
import MediaRelay.Text.Utf8
/-! Fields of a rehearsal that is written down as JSON. Bytes are given as text, as hexadecimal digits, as something
repeated, or as a list of these. -/

namespace MediaRelay.Rehearsal

abbrev Read := Except String

def need {α : Type} (what : String) : Option α → Read α
  | some a => .ok a
  | none => .error what

def getStr (j : Json) (key : String) : Option String :=
  match j.get? key with
  | some (.string (some s)) => some s
  | _ => none

def asInt? : Json → Option Int
  | .number (.integer n) => some n
  | _ => none

def getInt (j : Json) (key : String) : Option Int := (j.get? key).bind asInt?

def asNat (j : Json) : Nat := ((asInt? j).getD 0).toNat

def getNat (j : Json) (key : String) (dflt : Nat) : Nat := ((getInt j key).map Int.toNat).getD dflt

def getBool (j : Json) (key : String) : Bool :=
  match j.get? key with
  | some (.bool b) => b
  | _ => false

def asList : Json → List Json
  | .array l => l
  | _ => []

def getList (j : Json) (key : String) : List Json := (j.get? key).elim [] asList

/-- The members with a key that is text. -/
def members : Json → List (String × Json)
  | .object ms => ms.filterMap fun (k, v) => k.map (·, v)
  | _ => []

/-- The one member of an object that has one. -/
def only (j : Json) : Read (String × Json) :=
  match members j with
  | [m] => .ok m
  | _ => .error "step"

def hexBytes (acc : ByteArray) : List Char → ByteArray
  | a :: b :: rest =>
    hexBytes (acc.push (UInt8.ofNat (((Json.hexValue? a).getD 0) * 16 + (Json.hexValue? b).getD 0))) rest
  | _ => acc

def repeated (b : ByteArray) : Nat → ByteArray → ByteArray
  | 0, acc => acc
  | n + 1, acc => repeated b n (acc ++ b)

mutual

def bytesOf : Json → ByteArray
  | .string (some s) => s.toUTF8
  | .array items => joinedBytes .empty items
  | .object ms => memberBytes ms
  | _ => .empty

def joinedBytes (acc : ByteArray) : List Json → ByteArray
  | [] => acc
  | j :: rest => joinedBytes (acc ++ bytesOf j) rest

/-- The bytes that the first member of a known name gives. -/
def memberBytes : List (Option String × Json) → ByteArray
  | (some "hex", .string (some digits)) :: _ => hexBytes .empty digits.toList
  | (some "repeat", .array [j, n]) :: _ => repeated (bytesOf j) (asNat n) .empty
  | _ :: rest => memberBytes rest
  | [] => .empty

end

def getBytes (j : Json) (key : String) : ByteArray := (j.get? key).elim .empty bytesOf

def asText (j : Json) : String := textOfBytes (bytesOf j)

def getText (j : Json) (key : String) : String := textOfBytes (getBytes j key)

end MediaRelay.Rehearsal
