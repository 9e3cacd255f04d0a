/-! Blank characters and the words between them. A character is blank when it has the Unicode property
White_Space, so a no-break space and an ideographic space separate words like any other. -/

namespace MediaRelay.Text

/-- The code points with the property White_Space. -/
def isBlank (c : Char) : Bool :=
  let n := c.toNat
  (9 ≤ n && n ≤ 13) || n == 0x20 || n == 0x85 || n == 0xA0 || n == 0x1680 ||
  (0x2000 ≤ n && n ≤ 0x200A) || n == 0x2028 || n == 0x2029 || n == 0x202F || n == 0x205F || n == 0x3000

def trimStart (s : List Char) : List Char := s.dropWhile isBlank

def trimEnd (s : List Char) : List Char := (s.reverse.dropWhile isBlank).reverse

/-- The text without the blanks at its two ends. -/
def trim (s : List Char) : List Char := trimEnd (trimStart s)

theorem length_dropWhile_le {α : Type} (p : α → Bool) (s : List α) : (s.dropWhile p).length ≤ s.length :=
  (List.dropWhile_sublist p).length_le

/-- The maximal runs of non-blank characters, in order. -/
def words (s : List Char) : List (List Char) :=
  match _h : trimStart s with
  | [] => []
  | c :: rest => (c :: rest.takeWhile (!isBlank ·)) :: words (rest.dropWhile (!isBlank ·))
termination_by s.length
decreasing_by
  have h1 : (c :: rest).length ≤ s.length := _h ▸ length_dropWhile_le isBlank s
  have h2 := length_dropWhile_le (!isBlank ·) rest
  simp only [List.length_cons] at h1
  omega

/-- What follows `marker` at the start of `s`. -/
def stripPrefix? (marker : List Char) (s : List Char) : Option (List Char) :=
  match marker, s with
  | [], rest => some rest
  | _ :: _, [] => none
  | m :: ms, c :: cs => if m = c then stripPrefix? ms cs else none

theorem stripPrefix?_eq_some_iff {marker s rest : List Char} :
    stripPrefix? marker s = some rest ↔ s = marker ++ rest := by
  induction marker generalizing s with
  | nil => simp [stripPrefix?, eq_comm]
  | cons m ms ih =>
    cases s with
    | nil => simp [stripPrefix?]
    | cons c cs =>
      by_cases h : m = c
      · simp [stripPrefix?, h, ih]
      · simp [stripPrefix?, h, Ne.symm h]

end MediaRelay.Text
