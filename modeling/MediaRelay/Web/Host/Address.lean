import MediaRelay.Text.Search
import MediaRelay.Web.Host.Domain
/-! Numeric hosts: IPv4 in one to four numbers of base eight, ten or sixteen, and IPv6 in brackets. -/

namespace MediaRelay.Web.Host

def digitIn (base : Nat) (c : Char) : Option Nat :=
  let v := if c.isDigit then some (c.toNat - '0'.toNat)
    else if 'a' ≤ c && c ≤ 'f' then some (c.toNat - 'a'.toNat + 10)
    else if 'A' ≤ c && c ≤ 'F' then some (c.toNat - 'A'.toNat + 10)
    else none
  v.filter (· < base)

def numberIn (base : Nat) (digits : List Char) : Option Nat :=
  digits.foldl (fun n c => do return (← n) * base + (← digitIn base c)) (some 0)

/-- One number of an IPv4 address: decimal, octal after a zero, hexadecimal after `0x`. -/
def ipv4Number (s : List Char) : Option Nat :=
  match s with
  | [] => none
  | '0' :: 'x' :: digits => numberIn 16 digits
  | '0' :: 'X' :: digits => numberIn 16 digits
  | ['0'] => some 0
  | '0' :: digits => numberIn 8 digits
  | digits => numberIn 10 digits

/-- The parts of a name, where one final dot does not count. -/
def nameParts (name : List Char) : List (List Char) :=
  let parts := Text.splitAt '.' name
  if parts.length > 1 && parts.getLast? == some [] then parts.dropLast else parts

/-- A name whose last part is a number is an IPv4 address or no host at all. -/
def endsInNumber (name : List Char) : Bool :=
  match Text.splitAt '.' name |>.reverse with
  | [] :: last :: _ => isNumber last
  | [[]] => false
  | last :: _ => isNumber last
  | [] => false
where
  isNumber (part : List Char) : Bool :=
    (!part.isEmpty && part.all Char.isDigit) || (ipv4Number part).isSome

def parseIpv4 (name : List Char) : Option Nat := do
  let parts := nameParts name
  if parts.length > 4 then none
  let numbers ← parts.mapM ipv4Number
  let last ← numbers.getLast?
  let front := numbers.dropLast
  if front.any (· > 255) then none
  if last ≥ Nat.pow 256 (5 - numbers.length) then none
  return front.zipIdx.foldl (fun sum (n, i) => sum + n * Nat.pow 256 (3 - i)) last

def writeIpv4 (n : Nat) : List Char :=
  s!"{n / 0x1000000 % 256}.{n / 0x10000 % 256}.{n / 256 % 256}.{n % 256}".toList

/-- A decimal number below 256 without leading zeros. -/
def octet? (s : List Char) : Option Nat :=
  if s.isEmpty || s.length > 3 || !s.all Char.isDigit || (s.length > 1 && s.head? == some '0') then none
  else (numberIn 10 s).filter (· ≤ 255)

def hexGroup? (s : List Char) : Option Nat :=
  if s.isEmpty || s.length > 4 then none else numberIn 16 s

/-- Groups of 16 bits between colons; the last one may be an IPv4 address, which is two. -/
def groupsOf (s : List Char) (mayEndInIpv4 : Bool) : Option (List Nat) :=
  if s.isEmpty then some []
  else
    let parts := Text.splitAt ':' s
    let front := parts.dropLast
    let last := parts.getLast?.getD []
    if mayEndInIpv4 && last.contains '.' then do
      let front ← front.mapM hexGroup?
      match ← (Text.splitAt '.' last).mapM octet? with
      | [a, b, c, d] => return front ++ [a * 256 + b, c * 256 + d]
      | _ => none
    else parts.mapM hexGroup?

/-- The two sides of the first double colon. -/
def splitGap : List Char → Option (List Char × List Char)
  | ':' :: ':' :: rest => some ([], rest)
  | c :: rest => (splitGap rest).map fun (a, b) => (c :: a, b)
  | [] => none

/-- The eight groups of an IPv6 address. -/
def parseIpv6 (s : List Char) : Option (List Nat) :=
  match splitGap s with
  | some (a, b) => do
    let a ← groupsOf a false
    let b ← groupsOf b true
    if a.length + b.length > 7 then none
    return a ++ List.replicate (8 - a.length - b.length) 0 ++ b
  | none => do
    let groups ← groupsOf s true
    if groups.length = 8 then return groups else none

/-- Start and length of the first longest run of zeros. -/
def longestZeros : (groups : List Nat) → (at_ : Nat) → (run : Nat) → (best : Nat × Nat) → Nat × Nat
  | [], _, _, best => best
  | g :: gs, at_, run, best =>
    if g = 0 then
      let run := run + 1
      longestZeros gs (at_ + 1) run (if run > best.2 then (at_ + 1 - run, run) else best)
    else longestZeros gs (at_ + 1) 0 best

def writeIpv6 (groups : List Nat) : List Char :=
  let hex := fun (n : Nat) => Nat.toDigits 16 n
  let (start, length) := longestZeros groups 0 0 (0, 0)
  let body :=
    if length < 2 then joinWith ':' (groups.map hex)
    else joinWith ':' ((groups.take start).map hex) ++ [':', ':'] ++
      joinWith ':' ((groups.drop (start + length)).map hex)
  '[' :: (body ++ [']'])

end MediaRelay.Web.Host
