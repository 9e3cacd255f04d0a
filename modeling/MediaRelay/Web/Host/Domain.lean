import MediaRelay.Text.Search
import MediaRelay.Web.Host.Normal
import MediaRelay.Web.Host.Punycode
/-! Host names in ASCII. A name is mapped and normalised, and each label beyond ASCII is written in Punycode,
if it is one that may stand in a host name. -/

namespace MediaRelay.Web.Host

def joinWith (sep : Char) : List (List Char) → List Char
  | [] => []
  | [p] => p
  | p :: ps => p ++ sep :: joinWith sep ps

/-- ASCII characters that no host name holds. -/
def isForbidden (c : Char) : Bool :=
  c.toNat ≤ 0x20 || c.toNat = 0x7F || "#/:<>?@[\\]^|%".toList.contains c

def mapName : List Char → Option (List Char)
  | [] => some []
  | c :: cs => do
    let here ← if c.toNat < 0x80 then some [c.toLower] else mapChar c
    return here ++ (← mapName cs)

/-- A joiner may follow a virama, and the zero width non-joiner also stand between letters that would join. -/
def joinersFit (before : List Char) : List Char → Bool
  | [] => true
  | c :: cs =>
    let afterVirama := match before with
      | b :: _ => combiningClass b = 9
      | [] => false
    let between :=
      (match before.dropWhile (joining · == "T") with
        | b :: _ => joining b == "L" || joining b == "D"
        | [] => false) &&
      (match cs.dropWhile (joining · == "T") with
        | a :: _ => joining a == "R" || joining a == "D"
        | [] => false)
    let fits :=
      if c = '\u200c' then afterVirama || between
      else if c = '\u200d' then afterVirama
      else true
    fits && joinersFit (c :: before) cs

/-- Hebrew is the first script that is written from right to left. -/
def isRightToLeft (c : Char) : Bool := 0x590 ≤ c.toNat && ["R", "AL", "AN"].contains (direction c)

/-- The rule for the directions of the characters in a label. -/
def directionFits (label : List Char) : Bool :=
  match label with
  | [] => true
  | c :: _ =>
    let all := label.map direction
    let last := (all.reverse.dropWhile (· == "NSM")).head?.getD "NSM"
    if direction c == "L" then
      all.all (["L", "EN", "ES", "CS", "ET", "ON", "BN", "NSM"].contains ·) && ["L", "EN"].contains last
    else if direction c == "R" || direction c == "AL" then
      all.all (["R", "AL", "AN", "EN", "ES", "CS", "ET", "ON", "BN", "NSM"].contains ·) &&
      ["R", "AL", "EN", "AN"].contains last && !(all.contains "EN" && all.contains "AN")
    else false

/-- A label beyond ASCII that may stand in a name. -/
def labelFits (label : List Char) : Bool :=
  !(label.head?.any isMark) && joinersFit [] label

/-- A label in Unicode: one in Punycode is decoded, and must be what encoding would have taken. -/
def readLabel (label : List Char) : Option (List Char) :=
  match label with
  | 'x' :: 'n' :: '-' :: '-' :: text =>
    if label.any (0x80 ≤ ·.toNat) then none
    else do
      let decoded ← Punycode.decode text
      if decoded.all (·.toNat < 0x80) then none
      else if decoded.all (fun c => if c.toNat < 0x80 then !('A' ≤ c && c ≤ 'Z') else isValid c) &&
          normalForm decoded == decoded && labelFits decoded then some decoded
      else none
  | _ => if label.all (·.toNat < 0x80) || labelFits label then some label else none

def writeLabel (label : List Char) : List Char :=
  if label.all (·.toNat < 0x80) then label else ['x', 'n', '-', '-'] ++ Punycode.encode label

def toAscii (name : List Char) : Option (List Char) := do
  let labels ← (Text.splitAt '.' (normalForm (← mapName name))).mapM readLabel
  let name := joinWith '.' (labels.map writeLabel)
  if name.any isForbidden then none
  else if labels.any (·.any isRightToLeft) && !labels.all directionFits then none
  else some name

end MediaRelay.Web.Host
