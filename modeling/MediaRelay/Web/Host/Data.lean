import MediaRelay.Web.Host.Table.Mapping
import MediaRelay.Web.Host.Table.Composition
import MediaRelay.Web.Host.Table.Direction
import MediaRelay.Web.Host.Table.Joining
/-! The tables for host names, all of Unicode 17, in a form that can be looked up. -/

namespace MediaRelay.Web.Host

structure Span where
  lo : Nat
  hi : Nat
deriving Inhabited

def Span.holds (s : Span) (c : Char) : Bool := s.lo ≤ c.toNat && c.toNat ≤ s.hi

def hexNat (s : String) : Nat :=
  s.foldl (fun n c =>
    n * 16 + (if c.isDigit then c.toNat - '0'.toNat else c.toNat - 'a'.toNat + 10)) 0

def spanOf (s : String) : Span :=
  match s.splitOn "-" with
  | [a, b] => ⟨hexNat a, hexNat b⟩
  | _ => ⟨hexNat s, hexNat s⟩

/-- The entries of a table, which stand between blanks and line breaks. -/
def entries (table : String) : List String := (table.splitOn "\n").flatMap (·.splitOn " ")

def spansOf (table : String) : Array Span := ((entries table).map spanOf).toArray

def notesOf (sep : String) (table : String) : Array (Span × String) :=
  ((entries table).map fun entry =>
    match entry.splitOn sep with
    | [s, note] => (spanOf s, note)
    | _ => (spanOf entry, "")).toArray

structure Shift where
  span : Span
  stride : Nat
  image : Nat
deriving Inhabited

def shiftOf (entry : String) : Shift :=
  match entry.splitOn ">" with
  | [run, image] =>
    match run.splitOn "/" with
    | [s, stride] => ⟨spanOf s, hexNat stride, hexNat image⟩
    | _ => ⟨spanOf run, 1, hexNat image⟩
  | _ => default

def pointsOf (s : String) : List Char := (s.splitOn ",").map fun p => Char.ofNat (hexNat p)

def validSpans : Array Span := spansOf Table.valid
def ignoredSpans : Array Span := spansOf Table.ignored
def shifts : Array Shift := ((entries Table.shifted).map shiftOf).toArray
def expansions : Array (Span × List Char) := (notesOf ">" Table.expanded).map fun (s, n) => (s, pointsOf n)
def compositions : Array (Span × List Char) := (notesOf ">" Table.composed).map fun (s, n) => (s, pointsOf n)
def classSpans : Array (Span × Nat) := (notesOf ":" Table.classes).map fun (s, n) => (s, n.toNat?.getD 0)
def markSpans : Array Span := spansOf Table.marks
def directionSpans : Array (Span × String) := notesOf ":" Table.directions
def joiningSpans : Array (Span × String) := notesOf ":" Table.joinings

def noteAt? {α : Type} (table : Array (Span × α)) (c : Char) : Option α :=
  (table.find? (·.1.holds c)).map (·.2)

def isValid (c : Char) : Bool := validSpans.any (·.holds c)

/-- What a character turns into; `none` where it is not allowed. -/
def mapChar (c : Char) : Option (List Char) :=
  if isValid c then some [c]
  else if ignoredSpans.any (·.holds c) then some []
  else
    match shifts.find? fun s => s.span.holds c && (c.toNat - s.span.lo) % s.stride == 0 with
    | some s => some [Char.ofNat (s.image + (c.toNat - s.span.lo))]
    | none => noteAt? expansions c

def combiningClass (c : Char) : Nat :=
  if c.toNat < 0x300 then 0 else (noteAt? classSpans c).getD 0

def isMark (c : Char) : Bool := c.toNat ≥ 0x300 && markSpans.any (·.holds c)

def direction (c : Char) : String := (noteAt? directionSpans c).getD "L"

def joining (c : Char) : String := (noteAt? joiningSpans c).getD "U"

end MediaRelay.Web.Host
