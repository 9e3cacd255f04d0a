import MediaRelay.Text.Search
import MediaRelay.Toml.Basic
import MediaRelay.Json.Reader
/-! Strings of TOML: basic ones with escapes and literal ones without, each on one line or on several. -/

namespace MediaRelay.Toml

open Text (stripPrefix?)

/-- The number that hexadecimal digits spell. -/
def hexNumber? (digits : List Char) : Option Nat :=
  digits.foldlM (fun n c => (Json.hexValue? c).map (n * 16 + ·)) 0

/-- The character of an escape of `count` hexadecimal digits, and the rest. -/
def codePoint? (count : Nat) (s : List Char) : Option (Char × List Char) :=
  match hexNumber? (s.take count) with
  | none => none
  | some n =>
    if count ≤ s.length ∧ n.isValidChar then some (Char.ofNat n, s.drop count) else none

def escape? : List Char → Option (Char × List Char)
  | 'b' :: rest => some ('\x08', rest)
  | 't' :: rest => some ('\t', rest)
  | 'n' :: rest => some ('\n', rest)
  | 'f' :: rest => some ('\x0c', rest)
  | 'r' :: rest => some ('\r', rest)
  | '"' :: rest => some ('"', rest)
  | '\\' :: rest => some ('\\', rest)
  | 'u' :: rest => codePoint? 4 rest
  | 'U' :: rest => codePoint? 8 rest
  | _ => none

theorem codePoint?_length {count : Nat} {s : List Char} {r : Char × List Char}
    (h : codePoint? count s = some r) : r.2.length ≤ s.length := by
  unfold codePoint? at h
  split at h
  · cases h
  · split at h
    · cases h
      simp
    · cases h

theorem escape?_length {s : List Char} {r : Char × List Char} (h : escape? s = some r) :
    r.2.length < s.length := by
  unfold escape? at h
  split at h <;>
    first
    | exact Nat.lt_succ_of_le (codePoint?_length h)
    | (cases h; done)
    | (cases h; simp)

/-- The rest of a basic string after its opening quote, where `acc` holds what was read, last character first. -/
def basicFrom (acc : List Char) (s : List Char) : Option (List Char × List Char) :=
  match s with
  | [] => none
  | '"' :: rest => some (acc.reverse, rest)
  | '\\' :: rest =>
    match _h : escape? rest with
    | none => none
    | some (c, rest') => basicFrom (c :: acc) rest'
  | c :: rest => if isPlain c then basicFrom (c :: acc) rest else none
termination_by s.length
decreasing_by
  · have : rest'.length < rest.length := escape?_length _h
    simp only [List.length_cons]
    omega
  · simp

def literal? (s : List Char) : Option (List Char × List Char) :=
  match Text.span (fun c => isPlain c && c ≠ '\'') s with
  | (value, '\'' :: rest) => some (value, rest)
  | _ => none

/-- Three quotes after at most two more: those more, and what follows. -/
def closing? (quote : Char) (s : List Char) : Option (List Char × List Char) :=
  let quotes := s.takeWhile (· = quote)
  if quotes.length < 3 then none
  else
    let extra := min (quotes.length - 3) 2
    some (List.replicate extra quote, s.drop (extra + 3))

/-- What follows a backslash at the end of a line: the next character that is no blank and no line break. -/
def afterFold? (s : List Char) : Option (List Char) :=
  match afterBreak? (s.dropWhile isBlank) with
  | none => none
  | some rest => some (skipFolds rest)
where
  skipFolds (s : List Char) : List Char :=
    match s with
    | ' ' :: rest => skipFolds rest
    | '\t' :: rest => skipFolds rest
    | '\n' :: rest => skipFolds rest
    | '\r' :: '\n' :: rest => skipFolds rest
    | s => s

theorem skipFolds_length (s : List Char) : (afterFold?.skipFolds s).length ≤ s.length := by
  fun_induction afterFold?.skipFolds s <;> simp_all <;> omega

theorem afterFold?_length {s rest : List Char} (h : afterFold? s = some rest) : rest.length < s.length := by
  unfold afterFold? at h
  split at h
  · cases h
  · rename_i rest' hb
    cases h
    have h1 := afterBreak?_length hb
    have h2 := Text.length_dropWhile_le isBlank s
    have h3 := skipFolds_length rest'
    omega

/-- The rest of a basic string on several lines. -/
def longBasicFrom (acc : List Char) (s : List Char) : Option (List Char × List Char) :=
  match s with
  | [] => none
  | '\\' :: rest =>
    match _h : afterFold? rest with
    | some rest' => longBasicFrom acc rest'
    | none =>
      match _h' : escape? rest with
      | none => none
      | some (c, rest') => longBasicFrom (c :: acc) rest'
  | c :: rest =>
    match _hb : afterBreak? (c :: rest) with
    | some rest' => longBasicFrom ('\n' :: acc) rest'
    | none =>
      match closing? '"' (c :: rest) with
      | some (extra, rest') => some (acc.reverse ++ extra, rest')
      | none => if isPlain c then longBasicFrom (c :: acc) rest else none
termination_by s.length
decreasing_by
  · have := afterFold?_length _h
    simp only [List.length_cons]
    omega
  · have : rest'.length < rest.length := escape?_length _h'
    simp only [List.length_cons]
    omega
  · exact afterBreak?_length _hb
  · simp

def longLiteralFrom (acc : List Char) (s : List Char) : Option (List Char × List Char) :=
  match s with
  | [] => none
  | c :: rest =>
    match _hb : afterBreak? (c :: rest) with
    | some rest' => longLiteralFrom ('\n' :: acc) rest'
    | none =>
      match closing? '\'' (c :: rest) with
      | some (extra, rest') => some (acc.reverse ++ extra, rest')
      | none => if isPlain c then longLiteralFrom (c :: acc) rest else none
termination_by s.length
decreasing_by
  · exact afterBreak?_length _hb
  · simp

/-- The text without the line break that begins it. -/
def skipBreak (s : List Char) : List Char := (afterBreak? s).getD s

def shortString? : List Char → Option (List Char × List Char)
  | '"' :: rest => basicFrom [] rest
  | '\'' :: rest => literal? rest
  | _ => none

def quoted? (s : List Char) : Option (List Char × List Char) :=
  match stripPrefix? ['"', '"', '"'] s with
  | some rest => longBasicFrom [] (skipBreak rest)
  | none =>
    match stripPrefix? ['\'', '\'', '\''] s with
    | some rest => longLiteralFrom [] (skipBreak rest)
    | none => shortString? s

end MediaRelay.Toml
