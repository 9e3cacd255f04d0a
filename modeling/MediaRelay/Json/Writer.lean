import MediaRelay.Json.Basic
/-! Writing JSON: no blanks, members in the order given, and in strings only what must be escaped. -/

namespace MediaRelay.Json

def hexDigit (n : Nat) : Char := Char.ofNat (if n < 10 then '0'.toNat + n else 'a'.toNat + (n - 10))

def writeChar (c : Char) : List Char :=
  if c = '"' then ['\\', '"']
  else if c = '\\' then ['\\', '\\']
  else if c = '\n' then ['\\', 'n']
  else if c = '\r' then ['\\', 'r']
  else if c = '\t' then ['\\', 't']
  else if c = '\x08' then ['\\', 'b']
  else if c = '\x0c' then ['\\', 'f']
  else if c.toNat < 0x20 then ['\\', 'u', '0', '0', hexDigit (c.toNat / 16), hexDigit (c.toNat % 16)]
  else [c]

def writeString (s : String) : List Char := '"' :: (s.toList.flatMap writeChar ++ ['"'])

def writeInt (n : Int) : List Char :=
  if n < 0 then '-' :: Nat.toDigits 10 n.natAbs else Nat.toDigits 10 n.natAbs

mutual

/-- The text of a tree. What has no text of its own is written as null. -/
def write : Json → List Char
  | .null => ['n', 'u', 'l', 'l']
  | .bool true => ['t', 'r', 'u', 'e']
  | .bool false => ['f', 'a', 'l', 's', 'e']
  | .number (.integer n) => writeInt n
  | .number (.real _) => ['n', 'u', 'l', 'l']
  | .string s => writeString (s.getD "")
  | .array items => '[' :: (writeItems items ++ [']'])
  | .object members => '{' :: (writeMembers members ++ ['}'])
  | .broken => ['n', 'u', 'l', 'l']

def writeItems : List Json → List Char
  | [] => []
  | [v] => write v
  | v :: vs => write v ++ ',' :: writeItems vs

def writeMembers : List (Option String × Json) → List Char
  | [] => []
  | [(k, v)] => writeString (k.getD "") ++ ':' :: write v
  | (k, v) :: ms => writeString (k.getD "") ++ ':' :: (write v ++ ',' :: writeMembers ms)

end

def writeText (v : Json) : String := String.ofList (write v)

end MediaRelay.Json
