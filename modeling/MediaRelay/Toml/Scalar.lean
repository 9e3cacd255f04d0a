import MediaRelay.Toml.Basic
import MediaRelay.Text.Search
import MediaRelay.Json.Reader
import MediaRelay.Decimal.Range
import MediaRelay.Decimal.Unsigned
/-! Numbers, dates and names of TOML. -/

namespace MediaRelay.Toml

open Text (stripPrefix?)

/-- More digits of a run, where an underscore stands between two digits; `acc` holds the digits so far, last
first. -/
def moreDigits? (isDigit : Char → Bool) (acc : List Char) : List Char → Option (List Char × List Char)
  | '_' :: c :: rest => if isDigit c then moreDigits? isDigit (c :: acc) rest else none
  | '_' :: [] => none
  | c :: rest => if isDigit c then moreDigits? isDigit (c :: acc) rest else some (acc.reverse, c :: rest)
  | [] => some (acc.reverse, [])

/-- A run of digits, underscores left out, and the rest. -/
def digitRun? (isDigit : Char → Bool) : List Char → Option (List Char × List Char)
  | c :: rest => if isDigit c then moreDigits? isDigit [c] rest else none
  | [] => none

/-- Whether a minus sign leads, and the rest after a sign. -/
def sign : List Char → Bool × List Char
  | '-' :: rest => (true, rest)
  | '+' :: rest => (false, rest)
  | s => (false, s)

/-- A decimal whole number without a sign: no zero leads, but zero itself. -/
def whole? : List Char → Option (List Char × List Char)
  | '0' :: rest => some (['0'], rest)
  | s => digitRun? Char.isDigit s

def inBase (base : Nat) (digits : List Char) : Nat :=
  digits.foldl (fun n c => n * base + (Json.hexValue? c).getD 0) 0

/-- An integer, if it has 64 bits. -/
def ofInt? (n : Int) : Option Toml :=
  if h : Word.minSigned ≤ n ∧ n ≤ Word.maxSigned then some (.integer ⟨n, h⟩) else none

def based? (base : Nat) (isDigit : Char → Bool) (s : List Char) : Option (Toml × List Char) := do
  let (digits, rest) ← digitRun? isDigit s
  return (← ofInt? (inBase base digits), rest)

def integer? (s : List Char) : Option (Toml × List Char) :=
  match s with
  | '0' :: 'x' :: rest => based? 16 (fun c => (Json.hexValue? c).isSome) rest
  | '0' :: 'o' :: rest => based? 8 (fun c => '0' ≤ c && c ≤ '7') rest
  | '0' :: 'b' :: rest => based? 2 (fun c => c = '0' || c = '1') rest
  | s => do
    let (minus, s) := sign s
    let (digits, rest) ← whole? s
    let n : Int := Decimal.digitsValue digits
    return (← ofInt? (if minus then -n else n), rest)

def exponent? (s : List Char) : Option (Int × List Char) := do
  let (minus, s) := sign s
  let (digits, rest) ← digitRun? Char.isDigit s
  let n : Int := Decimal.digitsValue digits
  return (if minus then -n else n, rest)

/-- What follows a whole number and makes it a real one: its decimal places and its exponent. -/
def realTail? : List Char → Option (List Char × Int × List Char)
  | '.' :: s => do
    let (places, rest) ← digitRun? Char.isDigit s
    match rest with
    | e :: rest' =>
      if e = 'e' || e = 'E' then
        match exponent? rest' with
        | some (exponent, rest'') => some (places, exponent, rest'')
        | none => some (places, 0, rest)
      else some (places, 0, rest)
    | [] => some (places, 0, [])
  | e :: s =>
    if e = 'e' || e = 'E' then (exponent? s).map fun (exponent, rest) => ([], exponent, rest) else none
  | [] => none

/-- A real number; one too large is refused unless it is negative. -/
def real? (s : List Char) : Option (Toml × List Char) :=
  let (minus, s) := sign s
  match stripPrefix? ['i', 'n', 'f'] s <|> stripPrefix? ['n', 'a', 'n'] s with
  | some rest => some (.real, rest)
  | none => do
    let (digits, rest) ← whole? s
    let (places, exponent, rest) ← realTail? rest
    let all := digits ++ places
    if minus || Decimal.inRange (Decimal.digitsValue all) all.length (exponent - places.length) then
      return (.real, rest)
    else none

/-- A number of exactly `count` digits, at most `most`. -/
def field? (count least most : Nat) (s : List Char) : Option (Nat × List Char) :=
  let digits := s.take count
  let n := Decimal.digitsValue digits
  if digits.length = count && digits.all Char.isDigit && least ≤ n && n ≤ most then some (n, s.drop count)
  else none

def isLeapYear (year : Nat) : Bool := year % 4 = 0 && (year % 100 ≠ 0 || year % 400 = 0)

def daysIn (year month : Nat) : Nat :=
  if month = 2 then (if isLeapYear year then 29 else 28)
  else if [4, 6, 9, 11].contains month then 30
  else 31

def afterDate? (s : List Char) : Option (List Char) := do
  let (year, s) ← field? 4 0 9999 s
  let s ← stripPrefix? ['-'] s
  let (month, s) ← field? 2 1 12 s
  let s ← stripPrefix? ['-'] s
  let (_, s) ← field? 2 1 (daysIn year month) s
  return s

def afterTime? (s : List Char) : Option (List Char) := do
  let (_, s) ← field? 2 0 23 s
  let s ← stripPrefix? [':'] s
  let (_, s) ← field? 2 0 59 s
  let s ← stripPrefix? [':'] s
  let (_, s) ← field? 2 0 60 s
  match s with
  | '.' :: c :: rest => return if c.isDigit then rest.dropWhile Char.isDigit else s
  | s => return s

/-- What follows the offset from universal time, if there is one. -/
def afterOffset (s : List Char) : Option (List Char) :=
  match s with
  | 'Z' :: rest => some rest
  | 'z' :: rest => some rest
  | c :: rest =>
    if c = '+' || c = '-' then do
      let (_, s) ← field? 2 0 23 rest
      let s ← stripPrefix? [':'] s
      let (_, s) ← field? 2 0 59 s
      return s
    else some s
  | [] => some []

def afterMoment? (s : List Char) : Option (List Char) :=
  match afterDate? s with
  | none => afterTime? s
  | some rest =>
    match rest with
    | c :: rest' =>
      if c = 'T' || c = 't' || c = ' ' then
        match afterTime? rest' with
        | some after => afterOffset after
        | none => some rest
      else some rest
    | [] => some []

def scalar? (s : List Char) : Option (Toml × List Char) :=
  match afterMoment? s with
  | some rest => some (.moment, rest)
  | none =>
    match stripPrefix? "true".toList s, stripPrefix? "false".toList s with
    | some rest, _ => some (.boolean true, rest)
    | _, some rest => some (.boolean false, rest)
    | none, none => real? s <|> integer? s

end MediaRelay.Toml
