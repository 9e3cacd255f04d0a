import MediaRelay.Json.Basic
import MediaRelay.Text.Utf8
import MediaRelay.Decimal.Range
/-! Reading JSON text. The reader is a machine over the characters with a stack of open arrays and objects,
so that nesting is bounded by nothing but the text. Where the text breaks off or stops being JSON, the open
containers are closed around a `broken` leaf. -/

namespace MediaRelay.Json

/-- Text to read: characters, with `none` where bytes spell no character. -/
abbrev Source := List (Option Char)

inductive Token where
  | braceOpen | braceClose | bracketOpen | bracketClose | comma | colon
  | null | bool (b : Bool)
  | number (n : Number)
  | string (s : Option String)
deriving Repr, Inhabited

def isSpace : Option Char → Bool
  | some c => c = ' ' || c = '\t' || c = '\n' || c = '\r'
  | none => false

def hexValue? (c : Char) : Option Nat :=
  if '0' ≤ c && c ≤ '9' then some (c.toNat - '0'.toNat)
  else if 'a' ≤ c && c ≤ 'f' then some (c.toNat - 'a'.toNat + 10)
  else if 'A' ≤ c && c ≤ 'F' then some (c.toNat - 'A'.toNat + 10)
  else none

def hex4? (a b c d : Option Char) : Option Nat := do
  let a ← hexValue? (← a)
  let b ← hexValue? (← b)
  let c ← hexValue? (← c)
  let d ← hexValue? (← d)
  return ((a * 16 + b) * 16 + c) * 16 + d

def escape? : Char → Option Char
  | '"' => some '"'
  | '\\' => some '\\'
  | '/' => some '/'
  | 'b' => some '\x08'
  | 'f' => some '\x0c'
  | 'n' => some '\n'
  | 'r' => some '\r'
  | 't' => some '\t'
  | _ => none

/-- What a string has come to so far: characters, last first, a leading surrogate that waits for its
partner, and whether all of it is text. -/
structure Spelling where
  chars : List Char := []
  lead : Option Nat := none
  sound : Bool := true

/-- A character that is no half of a surrogate pair. -/
def Spelling.push (s : Spelling) (c : Char) : Spelling :=
  ⟨c :: s.chars, none, s.sound && s.lead.isNone⟩

def Spelling.flaw (s : Spelling) : Spelling := ⟨s.chars, none, false⟩

/-- A `\u` escape. -/
def Spelling.pushUnit (s : Spelling) (n : Nat) : Spelling :=
  match s.lead with
  | some lead =>
    if 0xDC00 ≤ n && n ≤ 0xDFFF then
      ⟨Char.ofNat (0x10000 + (lead - 0xD800) * 0x400 + (n - 0xDC00)) :: s.chars, none, s.sound⟩
    else s.flaw
  | none =>
    if 0xDC00 ≤ n && n ≤ 0xDFFF then s.flaw
    else if 0xD800 ≤ n && n ≤ 0xDBFF then ⟨s.chars, some n, s.sound⟩
    else s.push (Char.ofNat n)

def Spelling.text? (s : Spelling) : Option String :=
  if s.sound && s.lead.isNone then some (String.ofList s.chars.reverse) else none

/-- The rest of a string after its opening quote, and what follows the closing one. -/
def readString (s : Spelling) : Source → Option (Option String × Source)
  | [] => none
  | none :: rest => readString s.flaw rest
  | some '"' :: rest => some (s.text?, rest)
  | some '\\' :: some 'u' :: a :: b :: c :: d :: rest =>
    match hex4? a b c d with
    | some n => readString (s.pushUnit n) rest
    | none => none
  | some '\\' :: some e :: rest =>
    match escape? e with
    | some c => readString (s.push c) rest
    | none => none
  | some '\\' :: _ => none
  | some c :: rest => if c.toNat < 0x20 then none else readString (s.push c) rest

/-- Leading decimal digits as a number, with their count. -/
def readDigits (value count : Nat) : Source → Nat × Nat × Source
  | some c :: rest =>
    if c.isDigit then readDigits (value * 10 + (c.toNat - '0'.toNat)) (count + 1) rest
    else (value, count, some c :: rest)
  | rest => (value, count, rest)

/-- The digits after a decimal point, if there is one: all digits so far as a number, how many of them are
decimal places, whether there is a point, and the rest. -/
def readFraction (whole : Nat) : Source → Option (Nat × Nat × Bool × Source)
  | some '.' :: rest =>
    let (digits, places, rest) := readDigits whole 0 rest
    if places = 0 then none else some (digits, places, true, rest)
  | rest => some (whole, 0, false, rest)

def readSign : Source → Bool × Source
  | some '-' :: rest => (true, rest)
  | some '+' :: rest => (false, rest)
  | rest => (false, rest)

/-- The exponent, if there is one, whether there is one, and the rest. -/
def readExponent : Source → Option (Int × Bool × Source)
  | some e :: rest =>
    if e = 'e' || e = 'E' then
      let (minus, rest) := readSign rest
      let (value, count, rest) := readDigits 0 0 rest
      if count = 0 then none else some (if minus then -(value : Int) else value, true, rest)
    else some (0, false, some e :: rest)
  | rest => some (0, false, rest)

/-- A number after its sign. A minus zero is a real number, and so is an integer beyond the doubles. -/
def readNumber (negative : Bool) (s : Source) : Option (Number × Source) :=
  let (whole, count, rest) := readDigits 0 0 s
  if count = 0 || (s.head? == some (some '0') && count ≠ 1) then none
  else
    (readFraction whole rest).bind fun (digits, places, hasPoint, rest) =>
      (readExponent rest).map fun (exponent, hasExponent, rest) =>
        if hasPoint || hasExponent || (negative && whole = 0) then
          (.real (Decimal.inRange digits (count + places) (exponent - places)), rest)
        else if Decimal.inRange whole count 0 then
          (.integer (if negative then -(whole : Int) else whole), rest)
        else (.real false, rest)

def skipSpace (s : Source) : Source := s.dropWhile isSpace

/-- What follows a literal name whose first letter has been read. -/
def afterName? (name : List Char) (s : Source) : Option Source :=
  match name, s with
  | [], rest => some rest
  | c :: cs, some d :: rest => if c = d then afterName? cs rest else none
  | _ :: _, _ => none

/-- The next token, for text that does not start with space. -/
def nextToken? : Source → Option (Token × Source)
  | some '{' :: rest => some (.braceOpen, rest)
  | some '}' :: rest => some (.braceClose, rest)
  | some '[' :: rest => some (.bracketOpen, rest)
  | some ']' :: rest => some (.bracketClose, rest)
  | some ',' :: rest => some (.comma, rest)
  | some ':' :: rest => some (.colon, rest)
  | some '"' :: rest => (readString {} rest).map fun (s, rest) => (.string s, rest)
  | some 'n' :: rest => (afterName? ['u', 'l', 'l'] rest).map (.null, ·)
  | some 't' :: rest => (afterName? ['r', 'u', 'e'] rest).map (.bool true, ·)
  | some 'f' :: rest => (afterName? ['a', 'l', 's', 'e'] rest).map (.bool false, ·)
  | some '-' :: rest => (readNumber true rest).map fun (n, rest) => (.number n, rest)
  | some c :: rest =>
    if c.isDigit then (readNumber false (some c :: rest)).map fun (n, rest) => (.number n, rest) else none
  | _ => none

theorem readString_length {s : Spelling} {src : Source} {r : Option String × Source}
    (h : readString s src = some r) : r.2.length < src.length := by
  fun_induction readString s src with
  | case1 => cases h
  | case2 _ _ ih => have := ih h; simp only [List.length_cons]; omega
  | case3 => cases h; simp
  | case4 _ _ _ _ _ _ _ _ ih => have := ih h; simp only [List.length_cons]; omega
  | case5 => cases h
  | case6 _ _ _ _ _ _ ih => have := ih h; simp only [List.length_cons]; omega
  | case7 => cases h
  | case8 => cases h
  | case9 => cases h
  | case10 _ _ _ _ _ _ _ _ ih => have := ih h; simp only [List.length_cons]; omega

theorem readDigits_length (value count : Nat) (s : Source) :
    (readDigits value count s).2.2.length + (readDigits value count s).2.1 = s.length + count := by
  fun_induction readDigits value count s with
  | _ => simp_all <;> omega

theorem readFraction_length {whole : Nat} {s : Source} {r : Nat × Nat × Bool × Source}
    (h : readFraction whole s = some r) : r.2.2.2.length ≤ s.length := by
  unfold readFraction at h
  split at h
  · rename_i rest
    have := readDigits_length whole 0 rest
    simp only [Option.ite_none_left_eq_some, Option.some.injEq] at h
    obtain ⟨-, rfl⟩ := h
    have h1 : (readDigits whole 0 rest).2.2.length ≤ rest.length := by omega
    exact Nat.le_succ_of_le h1
  · cases h
    exact Nat.le_refl _

theorem readSign_length (s : Source) : (readSign s).2.length ≤ s.length := by
  unfold readSign
  split <;> simp

theorem readExponent_length {s : Source} {r : Int × Bool × Source}
    (h : readExponent s = some r) : r.2.2.length ≤ s.length := by
  unfold readExponent at h
  split at h
  · rename_i e rest
    split at h
    · have h1 := readSign_length rest
      have h2 := readDigits_length 0 0 (readSign rest).2
      simp only [Option.ite_none_left_eq_some, Option.some.injEq] at h
      obtain ⟨-, rfl⟩ := h
      have h3 : (readDigits 0 0 (readSign rest).2).2.2.length ≤ rest.length := by omega
      exact Nat.le_succ_of_le h3
    · cases h
      exact Nat.le_refl _
  · cases h
    exact Nat.le_refl _

theorem readNumber_length {negative : Bool} {s : Source} {r : Number × Source}
    (h : readNumber negative s = some r) : r.2.length < s.length := by
  have h0 := readDigits_length 0 0 s
  simp only [readNumber, Option.ite_none_left_eq_some, Bool.or_eq_true, decide_eq_true_eq, not_or] at h
  obtain ⟨⟨hc, -⟩, h⟩ := h
  replace hc : (readDigits 0 0 s).2.1 ≠ 0 := hc
  obtain ⟨f, hf, h⟩ := Option.bind_eq_some_iff.1 h
  obtain ⟨e, he, h⟩ := Option.map_eq_some_iff.1 h
  have h1 := readFraction_length hf
  have h2 := readExponent_length he
  have h3 : (readDigits 0 0 s).2.2.length < s.length := by omega
  have h4 : e.2.2.length < s.length := Nat.lt_of_le_of_lt (Nat.le_trans h2 h1) h3
  subst h
  split
  · exact h4
  · split <;> exact h4

theorem afterName?_length {name : List Char} {s r : Source} (h : afterName? name s = some r) :
    r.length ≤ s.length := by
  fun_induction afterName? name s <;> simp_all
  omega

/-- A reader that only rewraps what another one read leaves as much text. -/
theorem length_of_map {α : Type} {r : Option (α × Source)} {wrap : α → Token} {n : Nat} {t : Token × Source}
    (bound : ∀ a, r = some a → a.2.length < n) (h : r.map (fun a => (wrap a.1, a.2)) = some t) :
    t.2.length < n := by
  obtain ⟨a, ha, rfl⟩ := Option.map_eq_some_iff.1 h
  exact bound a ha

/-- What follows a name leaves as much text after its token. -/
theorem length_of_name {name : List Char} {c : Option Char} {rest : Source} {token : Token} {t : Token × Source}
    (h : (afterName? name rest).map (token, ·) = some t) : t.2.length < (c :: rest).length := by
  obtain ⟨after, ha, rfl⟩ := Option.map_eq_some_iff.1 h
  exact Nat.lt_succ_of_le (afterName?_length ha)

theorem nextToken?_length {s : Source} {r : Token × Source} (h : nextToken? s = some r) :
    r.2.length < s.length := by
  unfold nextToken? at h
  split at h
  · cases h; exact Nat.lt_succ_self _
  · cases h; exact Nat.lt_succ_self _
  · cases h; exact Nat.lt_succ_self _
  · cases h; exact Nat.lt_succ_self _
  · cases h; exact Nat.lt_succ_self _
  · cases h; exact Nat.lt_succ_self _
  · exact length_of_map (fun _ ha => Nat.lt_succ_of_lt (readString_length ha)) h
  · exact length_of_name h
  · exact length_of_name h
  · exact length_of_name h
  · exact length_of_map (fun _ ha => Nat.lt_succ_of_lt (readNumber_length ha)) h
  · split at h
    · exact length_of_map (fun _ ha => readNumber_length ha) h
    · cases h
  · cases h

inductive Frame where
  | array (before : List Json)
  | object (before : List (Option String × Json)) (key : Option String)

inductive Expected where
  | value
  | valueOrEnd
  | keyOrEnd
  | key
  | colon
  | separator
deriving DecidableEq

/-- Closes the open containers around a last piece. -/
def close (last : Json) : List Frame → Json
  | [] => last
  | .array before :: frames => close (.array (before.reverse ++ [last])) frames
  | .object before key :: frames => close (.object (before.reverse ++ [(key, last)])) frames

def breakOff (expected : Expected) : List Frame → Json
  | .object before _ :: frames =>
    match expected with
    | .key | .keyOrEnd | .separator => close .broken (.object before (some "") :: frames)
    | .value | .valueOrEnd | .colon => close .broken (.object before none :: frames)
  | frames => close .broken frames

structure Document where
  value : Json
  trailing : Bool := false

/-- One token further: the new stack and expectation, or a finished value when nothing is open. -/
inductive Progress where
  | open_ (frames : List Frame) (expected : Expected)
  | complete (value : Json)
  | stop

def place (v : Json) : List Frame → Progress
  | [] => .complete v
  | .array before :: frames => .open_ (.array (v :: before) :: frames) .separator
  | .object before key :: frames => .open_ (.object ((key, v) :: before) none :: frames) .separator

def startValue (t : Token) (frames : List Frame) : Progress :=
  match t with
  | .null => place .null frames
  | .bool b => place (.bool b) frames
  | .number n => place (.number n) frames
  | .string s => place (.string s) frames
  | .bracketOpen => .open_ (.array [] :: frames) .valueOrEnd
  | .braceOpen => .open_ (.object [] none :: frames) .keyOrEnd
  | _ => .stop

def advance (t : Token) (frames : List Frame) (expected : Expected) : Progress :=
  match expected, frames with
  | .value, _ => startValue t frames
  | .valueOrEnd, .array before :: outer =>
    match t with
    | .bracketClose => place (.array before.reverse) outer
    | t => startValue t frames
  | .keyOrEnd, .object before _ :: outer =>
    match t with
    | .braceClose => place (.object before.reverse) outer
    | .string key => .open_ (.object before key :: outer) .colon
    | _ => .stop
  | .key, .object before _ :: outer =>
    match t with
    | .string key => .open_ (.object before key :: outer) .colon
    | _ => .stop
  | .colon, _ =>
    match t with
    | .colon => .open_ frames .value
    | _ => .stop
  | .separator, .array before :: outer =>
    match t with
    | .comma => .open_ frames .value
    | .bracketClose => place (.array before.reverse) outer
    | _ => .stop
  | .separator, .object before _ :: outer =>
    match t with
    | .comma => .open_ frames .key
    | .braceClose => place (.object before.reverse) outer
    | _ => .stop
  | _, _ => .stop

def readFrom (s : Source) (frames : List Frame) (expected : Expected) : Document :=
  match _h : nextToken? (skipSpace s) with
  | none => ⟨breakOff expected frames, false⟩
  | some (t, rest) =>
    match advance t frames expected with
    | .open_ frames expected => readFrom rest frames expected
    | .complete v => ⟨v, !(skipSpace rest).isEmpty⟩
    | .stop => ⟨breakOff expected frames, false⟩
termination_by s.length
decreasing_by
  have h1 := nextToken?_length _h
  have h2 : (skipSpace s).length ≤ s.length := (List.dropWhile_sublist isSpace).length_le
  simp only at h1
  omega

def read (s : Source) : Document := readFrom s [] .value

def readText (s : String) : Document := read (s.toList.map some)

def readBytes (b : ByteArray) : Document := read (Text.charsOfBytes b)

end MediaRelay.Json
