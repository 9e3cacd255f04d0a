/-! Cutting a long text into pieces that a messaging platform accepts. Sizes are counted in UTF-8 bytes and
a character is never cut. A piece ends after the last line break of the window it may fill, or after the last
space, or where the window ends. -/

namespace MediaRelay.Text

/-- Number of bytes of the UTF-8 form. -/
def byteSize : List Char → Nat
  | [] => 0
  | c :: cs => c.utf8Size + byteSize cs

/-- The longest prefix of at most `room` bytes, and what is left. -/
def splitBytes (room : Nat) : List Char → List Char × List Char
  | [] => ([], [])
  | c :: cs =>
    if c.utf8Size ≤ room then
      let (front, back) := splitBytes (room - c.utf8Size) cs
      (c :: front, back)
    else ([], c :: cs)

theorem splitBytes_append (room : Nat) (s : List Char) :
    (splitBytes room s).1 ++ (splitBytes room s).2 = s := by
  induction s generalizing room with
  | nil => rfl
  | cons c cs ih =>
    simp only [splitBytes]
    split
    · simp [ih]
    · rfl

/-- The longest prefix of `w` that ends with `mark`. -/
def throughLast (mark : Char) (w : List Char) : Option (List Char) :=
  match w.reverse.dropWhile (· != mark) with
  | [] => none
  | rest => some rest.reverse

/-- Where a full window is cut: after its last line break, else after its last space, else at its end. -/
def cutWindow (w : List Char) : List Char :=
  (throughLast '\n' w <|> throughLast ' ' w).getD w

/-- The first piece of a text that does not fit: the cut window, or a single character wider than the limit. -/
def firstPiece (limit : Nat) (s : List Char) : List Char :=
  match (splitBytes limit s).1 with
  | [] => s.take 1
  | w => cutWindow w

theorem throughLast_ne_nil {mark : Char} {w p : List Char} (h : throughLast mark w = some p) : p ≠ [] := by
  unfold throughLast at h
  split at h
  · cases h
  · rename_i hne
    cases h
    simpa using hne

theorem cutWindow_ne_nil {w : List Char} (h : w ≠ []) : cutWindow w ≠ [] := by
  unfold cutWindow
  cases h1 : throughLast '\n' w with
  | some p => simpa [h1] using throughLast_ne_nil h1
  | none =>
    cases h2 : throughLast ' ' w with
    | some p => simpa [h1, h2] using throughLast_ne_nil h2
    | none => simpa [h1, h2] using h

theorem firstPiece_ne_nil (limit : Nat) {s : List Char} (h : s ≠ []) : firstPiece limit s ≠ [] := by
  unfold firstPiece
  split
  · cases s with
    | nil => exact absurd rfl h
    | cons c cs => simp
  · rename_i hne
    exact cutWindow_ne_nil hne

/-- The pieces of a text; none for the empty text. -/
def pieces (limit : Nat) (s : List Char) : List (List Char) :=
  if _h : s = [] then []
  else if (splitBytes limit s).2 = [] then [s]
  else
    let head := firstPiece limit s
    head :: pieces limit (s.drop head.length)
termination_by s.length
decreasing_by
  have h1 := List.length_pos_iff.2 (firstPiece_ne_nil limit _h)
  have h2 := List.length_pos_iff.2 _h
  simp only [List.length_drop]
  omega

/-- Cuts a text into pieces of at most `limit` bytes, where a limit of zero counts as one and a single wider
character is a piece of its own. The empty text is one empty piece. -/
def split (limit : Nat) (s : List Char) : List (List Char) :=
  match s with
  | [] => [[]]
  | s => pieces (max limit 1) s

end MediaRelay.Text

namespace MediaRelay

def splitText (text : String) (limit : Nat) : List String :=
  (Text.split limit text.toList).map String.ofList

end MediaRelay
