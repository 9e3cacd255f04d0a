import MediaRelay.Web.Host.Data
/-! Canonical composition (Unicode normalisation form C): composed characters are taken apart, marks put into
the order of their classes, and all composed again. -/

namespace MediaRelay.Web.Host

/-- A Hangul syllable in its letters. -/
def hangulParts (c : Char) : Option (List Char) :=
  let n := c.toNat
  if 0xAC00 ≤ n && n ≤ 0xD7A3 then
    let s := n - 0xAC00
    let front := [Char.ofNat (0x1100 + s / 588), Char.ofNat (0x1161 + s % 588 / 28)]
    some (if s % 28 = 0 then front else front ++ [Char.ofNat (0x11A7 + s % 28)])
  else none

/-- A character taken apart. Compositions nest a few levels deep at most. -/
def decomposed (depth : Nat) (c : Char) : List Char :=
  if c.toNat < 0xC0 then [c]
  else match hangulParts c with
    | some parts => parts
    | none =>
      match depth, noteAt? compositions c with
      | depth + 1, some [a, b] => decomposed depth a ++ [b]
      | _, _ => [c]

/-- Puts a mark before those of a higher class that follow it. -/
def insertMark (c : Char) (marks : List Char) : List Char :=
  match marks with
  | [] => [c]
  | m :: ms =>
    if combiningClass m > combiningClass c && combiningClass c ≠ 0 then c :: m :: ms
    else m :: insertMark c ms

/-- Sorts each run of marks by class, keeping the order within a class. -/
def sortMarks (run : List Char) : List Char → List Char
  | [] => run
  | c :: cs =>
    if combiningClass c = 0 then run ++ c :: sortMarks [] cs
    else sortMarks (insertMark c run) cs

def compose? (a b : Char) : Option Char :=
  let x := a.toNat
  let y := b.toNat
  if 0x1100 ≤ x && x ≤ 0x1112 && 0x1161 ≤ y && y ≤ 0x1175 then
    some (Char.ofNat (0xAC00 + ((x - 0x1100) * 21 + (y - 0x1161)) * 28))
  else if 0xAC00 ≤ x && x ≤ 0xD7A3 && (x - 0xAC00) % 28 = 0 && 0x11A8 ≤ y && y ≤ 0x11C2 then
    some (Char.ofNat (x + (y - 0x11A7)))
  else (compositions.find? (·.2 == [a, b])).map fun (s, _) => Char.ofNat s.lo

/-- Composes the rest of a text after a starter and the marks on it that stayed, last first. -/
def composeFrom (starter : Char) (left : List Char) : List Char → List Char
  | [] => starter :: left.reverse
  | c :: cs =>
    let cls := combiningClass c
    let blocked := match left with
      | [] => false
      | m :: _ => combiningClass m ≥ cls
    match (if blocked then none else compose? starter c) with
    | some whole => composeFrom whole left cs
    | none =>
      if cls = 0 then starter :: (left.reverse ++ composeFrom c [] cs)
      else composeFrom starter (c :: left) cs

def composeAll : List Char → List Char
  | [] => []
  | c :: cs => if combiningClass c = 0 then composeFrom c [] cs else c :: composeAll cs

def normalForm (s : List Char) : List Char :=
  if s.all (·.toNat < 0x300) then s
  else composeAll (sortMarks [] (s.flatMap (decomposed 4)))

end MediaRelay.Web.Host
