import MediaRelay.Text.Utf8
/-! Percent-encoding: the UTF-8 bytes of a character as `%` and two hexadecimal digits. Which ASCII characters
are encoded depends on the place in an address; all others are encoded everywhere. -/

namespace MediaRelay.Web.Percent

def hexDigit (n : Nat) : Char := Char.ofNat (if n < 10 then '0'.toNat + n else 'A'.toNat + (n - 10))

def byte (b : UInt8) : List Char := ['%', hexDigit (b.toNat / 16), hexDigit (b.toNat % 16)]

def inControls (c : Char) : Bool := c.toNat < 0x20 || c.toNat > 0x7E

def inFragment (c : Char) : Bool := inControls c || " \"<>`".toList.contains c

def inQuery (c : Char) : Bool := inControls c || " \"#<>".toList.contains c

/-- In addresses on the web, quotes are encoded too. -/
def inSpecialQuery (c : Char) : Bool := inQuery c || c = '\''

def inPath (c : Char) : Bool := inFragment c || "#?\x7b\x7d".toList.contains c

def inUserinfo (c : Char) : Bool := inPath c || "/:;=@[\\]^|".toList.contains c

def encodeChar (inSet : Char → Bool) (c : Char) : List Char :=
  if inSet c then (String.singleton c).toUTF8.toList.flatMap byte else [c]

def encode (inSet : Char → Bool) (s : List Char) : List Char := s.flatMap (encodeChar inSet)

def hexValue? (c : Char) : Option Nat :=
  if c.isDigit then some (c.toNat - '0'.toNat)
  else if 'a' ≤ c && c ≤ 'f' then some (c.toNat - 'a'.toNat + 10)
  else if 'A' ≤ c && c ≤ 'F' then some (c.toNat - 'A'.toNat + 10)
  else none

def decode : List Char → List UInt8
  | '%' :: a :: b :: rest =>
    match hexValue? a, hexValue? b with
    | some x, some y => UInt8.ofNat (x * 16 + y) :: decode rest
    | _, _ => '%'.toUInt8 :: decode (a :: b :: rest)
  | c :: rest => (String.singleton c).toUTF8.toList ++ decode rest
  | [] => []

/-- The decoded text, if the bytes are one. -/
def decodeText? (s : List Char) : Option (List Char) :=
  (String.fromUTF8? (ByteArray.mk (decode s).toArray)).map String.toList

/-- A character of a form that goes as it is. -/
def isFormSafe (c : Char) : Bool :=
  ('0' ≤ c && c ≤ '9') || ('a' ≤ c && c ≤ 'z') || ('A' ≤ c && c ≤ 'Z') || "*-._".toList.contains c

/-- A text as a form writes it: a blank is a plus sign. -/
def formText (s : List Char) : List Char :=
  s.flatMap fun c => if c = ' ' then ['+'] else encodeChar (!isFormSafe ·) c

/-- Names and values as a form or a query writes them. -/
def form (pairs : List (String × String)) : String :=
  "&".intercalate (pairs.map fun (k, v) =>
    String.ofList (formText k.toList) ++ "=" ++ String.ofList (formText v.toList))

end MediaRelay.Web.Percent
