import MediaRelay.Json.Reader
import MediaRelay.Json.Writer
import MediaRelay.Proofs.Decimal
import MediaRelay.Proofs.Text.Utf8
/-! Trees that are written are read back. Of a tree whose strings are all text and whose numbers are
integers of no more than 64 bits, the text keeps everything: the machine that reads it puts each
piece in the place where it was, whatever is open around it and whatever follows. -/

namespace MediaRelay.Json

/-! ### Strings -/

theorem hexValue?_hexDigit : ∀ n < 16, hexValue? (hexDigit n) = some n := by
  decide

/-- What a character becomes in a string: itself, a short escape, or an escape by its number. -/
theorem writeChar_cases (c : Char) :
    (∃ e, writeChar c = ['\\', e] ∧ e ≠ 'u' ∧ escape? e = some c) ∨
      (writeChar c = ['\\', 'u', '0', '0', hexDigit (c.toNat / 16), hexDigit (c.toNat % 16)] ∧
        c.toNat < 0x20) ∨
      writeChar c = [c] ∧ c ≠ '"' ∧ c ≠ '\\' ∧ ¬ c.toNat < 0x20 := by
  unfold writeChar
  split_ifs with h1 h2 h3 h4 h5 h6 h7 h8
  · subst h1
    exact .inl ⟨_, rfl, by decide, rfl⟩
  · subst h2
    exact .inl ⟨_, rfl, by decide, rfl⟩
  · subst h3
    exact .inl ⟨_, rfl, by decide, rfl⟩
  · subst h4
    exact .inl ⟨_, rfl, by decide, rfl⟩
  · subst h5
    exact .inl ⟨_, rfl, by decide, rfl⟩
  · subst h6
    exact .inl ⟨_, rfl, by decide, rfl⟩
  · subst h7
    exact .inl ⟨_, rfl, by decide, rfl⟩
  · exact .inr (.inl ⟨rfl, h8⟩)
  · exact .inr (.inr ⟨rfl, h1, h2, h8⟩)

theorem readString_escape {e c : Char} (hu : e ≠ 'u') (he : escape? e = some c) (s : Spelling)
    (rest : Source) : readString s (some '\\' :: some e :: rest) = readString (s.push c) rest := by
  rw [readString, he]
  simp [hu]

theorem readString_plain {c : Char} (hquote : c ≠ '"') (hslash : c ≠ '\\') (hc : ¬ c.toNat < 0x20)
    (s : Spelling) (rest : Source) :
    readString s (some c :: rest) = readString (s.push c) rest := by
  rw [readString, if_neg hc]
  all_goals simp [hquote, hslash]

/-- A control below the blank is no half of a surrogate pair. -/
theorem readString_control {c : Char} (hc : c.toNat < 0x20) (s : Spelling) (hlead : s.lead = none)
    (rest : Source) :
    readString s (some '\\' :: some 'u' :: some '0' :: some '0' ::
      some (hexDigit (c.toNat / 16)) :: some (hexDigit (c.toNat % 16)) :: rest) =
      readString (s.push c) rest := by
  have hhigh : hexValue? (hexDigit (c.toNat / 16)) = some (c.toNat / 16) :=
    hexValue?_hexDigit _ (by omega)
  have hlow : hexValue? (hexDigit (c.toNat % 16)) = some (c.toNat % 16) :=
    hexValue?_hexDigit _ (by omega)
  have hzero : hexValue? '0' = some 0 := rfl
  have hhex : hex4? (some '0') (some '0') (some (hexDigit (c.toNat / 16)))
      (some (hexDigit (c.toNat % 16))) = some c.toNat := by
    simp only [hex4?, Option.bind_eq_bind, Option.bind_some, Option.pure_def, hzero, hhigh, hlow,
      Option.some.injEq]
    omega
  have hpush : s.pushUnit c.toNat = s.push c := by
    rw [Spelling.pushUnit, hlead]
    have htail : ¬ 0xDC00 ≤ c.toNat := by omega
    have hsurrogate : ¬ 0xD800 ≤ c.toNat := by omega
    simp [htail, hsurrogate, Char.ofNat_toNat]
  rw [readString, hhex]
  dsimp only
  rw [hpush]

theorem readString_writeChar (c : Char) (s : Spelling) (hlead : s.lead = none) (rest : Source) :
    readString s ((writeChar c).map some ++ rest) = readString (s.push c) rest := by
  rcases writeChar_cases c with ⟨e, hwrite, hu, he⟩ | ⟨hwrite, hc⟩ | ⟨hwrite, hquote, hslash, hc⟩
  · rw [hwrite]
    exact readString_escape hu he s rest
  · rw [hwrite]
    exact readString_control hc s hlead rest
  · rw [hwrite]
    exact readString_plain hquote hslash hc s rest

theorem readString_flatMap (cs acc : List Char) (rest : Source) :
    readString ⟨acc, none, true⟩ ((cs.flatMap writeChar).map some ++ some '"' :: rest) =
      some (some (String.ofList (acc.reverse ++ cs)), rest) := by
  induction cs generalizing acc with
  | nil =>
    rw [List.append_nil]
    rfl
  | cons c cs ih =>
    rw [List.flatMap_cons, List.map_append, List.append_assoc, readString_writeChar c _ rfl]
    exact (ih (c :: acc)).trans (by simp)

/-! ### Numbers -/

/-- What may come after a value in a tree that was written: nothing, a comma or the end of what is
open. -/
def IsStop (rest : Source) : Prop :=
  rest = [] ∨ ∃ c more, rest = some c :: more ∧ (c = ',' ∨ c = ']' ∨ c = '}')

theorem readDigits_append {ds : List Char} (hds : ∀ d ∈ ds, d.isDigit = true) {rest : Source}
    (hrest : IsStop rest) (value count : ℕ) :
    readDigits value count (ds.map some ++ rest) =
      (ds.foldl (fun n d => n * 10 + (d.toNat - '0'.toNat)) value, count + ds.length, rest) := by
  induction ds generalizing value count with
  | nil =>
    rcases hrest with rfl | ⟨c, more, rfl, rfl | rfl | rfl⟩ <;> rfl
  | cons d ds ih =>
    have hd : d.isDigit = true := hds d (by simp)
    have htail := ih (fun x hx => hds x (.tail d hx)) (value * 10 + (d.toNat - '0'.toNat))
      (count + 1)
    rw [List.map_cons, List.cons_append, readDigits, if_pos hd, htail, List.foldl_cons,
      List.length_cons, Nat.add_right_comm, Nat.add_assoc count ds.length 1]

theorem readFraction_of_isStop {rest : Source} (h : IsStop rest) (whole : ℕ) :
    readFraction whole rest = some (whole, 0, false, rest) := by
  rcases h with rfl | ⟨c, more, rfl, rfl | rfl | rfl⟩ <;> rfl

theorem readExponent_of_isStop {rest : Source} (h : IsStop rest) :
    readExponent rest = some (0, false, rest) := by
  rcases h with rfl | ⟨c, more, rfl, rfl | rfl | rfl⟩ <;> rfl

/-- A run of digits is read as an integer. Zero has no digits after it, and comes with no sign. -/
theorem readNumber_toDigits {n : ℕ} (hn : n ≤ Word.maxUnsigned) (negative : Bool)
    (hzero : negative = true → n ≠ 0) {rest : Source} (hrest : IsStop rest) :
    readNumber negative ((Nat.toDigits 10 n).map some ++ rest) =
      some (.integer (if negative then -(n : Int) else n), rest) := by
  have hdigits : ∀ d ∈ Nat.toDigits 10 n, d.isDigit = true :=
    fun d hd => Nat.isDigit_of_mem_toDigits (by decide) (by decide) hd
  have hread : readDigits 0 0 ((Nat.toDigits 10 n).map some ++ rest) =
      (n, (Nat.toDigits 10 n).length, rest) := by
    rw [readDigits_append hdigits hrest, Nat.zero_add]
    exact congrArg (·, _) (Decimal.digitsValue_toDigits n)
  have hne : (Nat.toDigits 10 n).length ≠ 0 := by
    simp [Nat.toDigits_ne_nil]
  have hlead : (Nat.toDigits 10 n).head? = some '0' → (Nat.toDigits 10 n).length = 1 := by
    intro hhead
    by_cases hn0 : n = 0
    · subst hn0
      rfl
    · exact absurd hhead (Decimal.head?_toDigits hn0)
  have hsign : ¬ (negative = true ∧ n = 0) := fun h => hzero h.1 h.2
  rw [readNumber, hread]
  simp [hne, hsign, readFraction_of_isStop hrest, readExponent_of_isStop hrest,
    Decimal.inRange_of_le hn]
  exact hlead

/-! ### Tokens -/

theorem skipSpace_cons {c : Char} (hc : isSpace (some c) = false) (s : Source) :
    skipSpace (some c :: s) = some c :: s := by
  rw [skipSpace, List.dropWhile_cons_of_neg (by simp [hc])]

theorem nextToken?_of_isDigit {d : Char} (hd : d.isDigit = true) (s : Source) :
    nextToken? (skipSpace (some d :: s)) =
      (readNumber false (some d :: s)).map fun r => (.number r.1, r.2) := by
  have hspace : isSpace (some d) = false := by
    simp only [isSpace, Bool.or_eq_false_iff, decide_eq_false_iff_not]
    refine ⟨⟨⟨?_, ?_⟩, ?_⟩, ?_⟩ <;> (rintro rfl; simp at hd)
  rw [skipSpace_cons hspace]
  unfold nextToken?
  split <;> simp_all

theorem nextToken?_writeInt {n : Int} (hn : n.natAbs ≤ Word.maxUnsigned) {rest : Source}
    (hrest : IsStop rest) :
    nextToken? (skipSpace ((writeInt n).map some ++ rest)) = some (.number (.integer n), rest) := by
  rw [writeInt]
  split
  case isTrue hneg =>
    have hread := readNumber_toDigits hn true (by omega) hrest
    have hvalue : -(n.natAbs : Int) = n := by omega
    rw [if_pos rfl, hvalue] at hread
    rw [List.map_cons, List.cons_append, skipSpace_cons rfl, nextToken?, hread]
    rfl
  case isFalse hpos =>
    have hread := readNumber_toDigits hn false (by simp) hrest
    have hvalue : (n.natAbs : Int) = n := by omega
    rw [if_neg (by simp), hvalue] at hread
    obtain ⟨d, ds, hds⟩ :=
      List.exists_cons_of_ne_nil (Nat.toDigits_ne_nil (b := 10) (n := n.natAbs))
    have hd : d.isDigit = true :=
      Nat.isDigit_of_mem_toDigits (b := 10) (n := n.natAbs) (by decide) (by decide) (by simp [hds])
    rw [hds, List.map_cons, List.cons_append] at hread ⊢
    rw [nextToken?_of_isDigit hd, hread]
    rfl

theorem nextToken?_writeString (s : String) (rest : Source) :
    nextToken? (skipSpace ((writeString s).map some ++ rest)) = some (.string (some s), rest) := by
  have hread := readString_flatMap s.toList [] rest
  rw [List.reverse_nil, List.nil_append, String.ofList_toList] at hread
  rw [writeString, List.map_cons, List.cons_append, skipSpace_cons rfl, nextToken?, List.map_append,
    List.append_assoc]
  exact congrArg (Option.map _) hread

/-! ### Trees -/

mutual

/-- A tree of which the text keeps everything: nothing in it broke off, all strings are text, and
all numbers are integers of no more than 64 bits. -/
def isPlain : Json → Bool
  | .null => true
  | .bool _ => true
  | .number (.integer n) => n.natAbs ≤ Word.maxUnsigned
  | .number (.real _) => false
  | .string s => s.isSome
  | .array items => isPlainItems items
  | .object members => isPlainMembers members
  | .broken => false

def isPlainItems : List Json → Bool
  | [] => true
  | v :: vs => isPlain v && isPlainItems vs

def isPlainMembers : List (Option String × Json) → Bool
  | [] => true
  | (k, v) :: ms => k.isSome && isPlain v && isPlainMembers ms

end

def afterValue (v : Json) (frames : List Frame) (rest : Source) : Document :=
  match frames with
  | [] => ⟨v, !(skipSpace rest).isEmpty⟩
  | .array before :: outer => readFrom rest (.array (v :: before) :: outer) .separator
  | .object before key :: outer =>
    readFrom rest (.object ((key, v) :: before) none :: outer) .separator

section

variable {s rest : Source} {t : Token} {frames frames' : List Frame} {expected expected' : Expected}

theorem readFrom_of_open (ht : nextToken? (skipSpace s) = some (t, rest))
    (ha : advance t frames expected = .open_ frames' expected') :
    readFrom s frames expected = readFrom rest frames' expected' := by
  rw [readFrom]
  split
  case h_1 hnone => simp [ht] at hnone
  case h_2 u after hsome =>
    obtain ⟨rfl, rfl⟩ : u = t ∧ after = rest := by simpa [ht, eq_comm] using hsome
    rw [ha]

theorem readFrom_of_place {v : Json} (ht : nextToken? (skipSpace s) = some (t, rest))
    (ha : advance t frames expected = place v frames') :
    readFrom s frames expected = afterValue v frames' rest := by
  rcases frames' with _ | ⟨before | ⟨before, key⟩, outer⟩
  · rw [readFrom]
    split
    case h_1 hnone => simp [ht] at hnone
    case h_2 u after hsome =>
      obtain ⟨rfl, rfl⟩ : u = t ∧ after = rest := by simpa [ht, eq_comm] using hsome
      rw [ha]
      rfl
  · exact readFrom_of_open ht ha
  · exact readFrom_of_open ht ha

def IsDue (frames : List Frame) (expected : Expected) : Prop :=
  expected = .value ∨ expected = .valueOrEnd ∧ ∃ before outer, frames = .array before :: outer

theorem advance_of_isDue (h : IsDue frames expected) (ht : t ≠ .bracketClose) :
    advance t frames expected = startValue t frames := by
  rcases h with rfl | ⟨rfl, before, outer, rfl⟩
  · rfl
  · cases t with
    | bracketClose => exact absurd rfl ht
    | _ => rfl

def IsKeyDue (expected : Expected) : Prop := expected = .key ∨ expected = .keyOrEnd

end

/-- A key and the colon after it are read, and the value is due. -/
theorem readFrom_key {expected : Expected} (he : IsKeyDue expected) (k : String)
    (before : List (Option String × Json)) (held : Option String) (outer : List Frame)
    (rest : Source) :
    readFrom ((writeString k).map some ++ some ':' :: rest) (.object before held :: outer)
        expected =
      readFrom rest (.object before (some k) :: outer) .value := by
  have hadvance : advance (.string (some k)) (.object before held :: outer) expected =
      .open_ (.object before (some k) :: outer) .colon := by
    rcases he with rfl | rfl <;> rfl
  rw [readFrom_of_open (nextToken?_writeString k _) hadvance]
  exact readFrom_of_open (t := .colon) rfl rfl

theorem writeItems_cons (v w : Json) (ws : List Json) :
    writeItems (v :: w :: ws) = write v ++ ',' :: writeItems (w :: ws) := by
  rw [writeItems]
  simp

theorem writeMembers_cons (k : Option String) (v : Json) (m : Option String × Json)
    (ms : List (Option String × Json)) :
    writeMembers ((k, v) :: m :: ms) =
      writeString (k.getD "") ++ ':' :: (write v ++ ',' :: writeMembers (m :: ms)) := by
  rw [writeMembers]
  simp

mutual

/-- A tree that was written is read back and put in its place. -/
theorem readFrom_write (v : Json) (hv : isPlain v = true) (frames : List Frame)
    (expected : Expected) (he : IsDue frames expected) (rest : Source) (hrest : IsStop rest) :
    readFrom ((write v).map some ++ rest) frames expected = afterValue v frames rest := by
  cases v with
  | null => exact readFrom_of_place (t := .null) rfl (advance_of_isDue he (by simp))
  | bool b =>
    cases b with
    | true => exact readFrom_of_place (t := .bool true) rfl (advance_of_isDue he (by simp))
    | false => exact readFrom_of_place (t := .bool false) rfl (advance_of_isDue he (by simp))
  | number n =>
    cases n with
    | integer n =>
      have hn : n.natAbs ≤ Word.maxUnsigned := by simpa [isPlain] using hv
      exact readFrom_of_place (nextToken?_writeInt hn hrest) (advance_of_isDue he (by simp))
    | real inRange => simp [isPlain] at hv
  | string s =>
    cases s with
    | some s =>
      exact readFrom_of_place (nextToken?_writeString s rest) (advance_of_isDue he (by simp))
    | none => simp [isPlain] at hv
  | array items =>
    cases items with
    | nil =>
      rw [readFrom_of_open (t := .bracketOpen) rfl (advance_of_isDue he (by simp))]
      exact readFrom_of_place (t := .bracketClose) rfl rfl
    | cons v vs =>
      rw [readFrom_of_open (t := .bracketOpen) rfl (advance_of_isDue he (by simp)), List.append_eq,
        List.map_append, List.append_assoc]
      exact readFrom_writeItems (v :: vs) (by simp) hv [] frames .valueOrEnd
        (.inr ⟨rfl, [], frames, rfl⟩) rest
  | object members =>
    cases members with
    | nil =>
      rw [readFrom_of_open (t := .braceOpen) rfl (advance_of_isDue he (by simp))]
      exact readFrom_of_place (t := .braceClose) rfl rfl
    | cons m ms =>
      rw [readFrom_of_open (t := .braceOpen) rfl (advance_of_isDue he (by simp)), List.append_eq,
        List.map_append, List.append_assoc]
      exact readFrom_writeMembers (m :: ms) (by simp) hv [] none frames .keyOrEnd (.inr rfl) rest
  | broken => simp [isPlain] at hv

theorem readFrom_writeItems (items : List Json) (hne : items ≠ [])
    (hplain : isPlainItems items = true) (before : List Json) (outer : List Frame)
    (expected : Expected) (he : IsDue (.array before :: outer) expected) (rest : Source) :
    readFrom ((writeItems items).map some ++ some ']' :: rest) (.array before :: outer) expected =
      afterValue (.array (before.reverse ++ items)) outer rest := by
  cases items with
  | nil => exact absurd rfl hne
  | cons v vs =>
    obtain ⟨hv, hvs⟩ : isPlain v = true ∧ isPlainItems vs = true := by
      simpa [isPlainItems] using hplain
    -- After the item comes the end of the array or a comma; either ends a number.
    cases vs with
    | nil =>
      rw [writeItems, readFrom_write v hv _ _ he _ (.inr ⟨_, _, rfl, by simp⟩), afterValue,
        readFrom_of_place (t := .bracketClose) (v := .array (v :: before).reverse) rfl rfl,
        List.reverse_cons]
    | cons w ws =>
      have hnext := readFrom_writeItems (w :: ws) (by simp) hvs (v :: before) outer .value
        (.inl rfl) rest
      rw [writeItems_cons, List.map_append, List.map_cons, List.append_assoc, List.cons_append,
        readFrom_write v hv _ _ he _ (.inr ⟨_, _, rfl, by simp⟩), afterValue,
        readFrom_of_open (t := .comma) rfl rfl, hnext, List.reverse_cons, List.append_assoc,
        List.singleton_append]

theorem readFrom_writeMembers (members : List (Option String × Json)) (hne : members ≠ [])
    (hplain : isPlainMembers members = true) (before : List (Option String × Json))
    (held : Option String) (outer : List Frame) (expected : Expected) (he : IsKeyDue expected)
    (rest : Source) :
    readFrom ((writeMembers members).map some ++ some '}' :: rest)
      (.object before held :: outer) expected =
      afterValue (.object (before.reverse ++ members)) outer rest := by
  cases members with
  | nil => exact absurd rfl hne
  | cons m ms =>
    obtain ⟨k, v⟩ := m
    obtain ⟨⟨hk, hv⟩, hms⟩ : (k.isSome = true ∧ isPlain v = true) ∧ isPlainMembers ms = true := by
      simpa [isPlainMembers] using hplain
    obtain ⟨k, rfl⟩ := Option.isSome_iff_exists.1 hk
    cases ms with
    | nil =>
      rw [writeMembers, List.map_append, List.map_cons, List.append_assoc, List.cons_append,
        Option.getD_some, readFrom_key he, readFrom_write v hv _ _ (.inl rfl) _
        (.inr ⟨_, _, rfl, by simp⟩), afterValue,
        readFrom_of_place (t := .braceClose) (v := .object ((some k, v) :: before).reverse) rfl rfl,
        List.reverse_cons]
    | cons m ms =>
      have hnext := readFrom_writeMembers (m :: ms) (by simp) hms ((some k, v) :: before) none outer
        .key (.inl rfl) rest
      rw [writeMembers_cons, List.map_append, List.map_cons, List.map_append, List.map_cons,
        List.append_assoc, List.cons_append, List.append_assoc, List.cons_append, Option.getD_some,
        readFrom_key he, readFrom_write v hv _ _ (.inl rfl) _ (.inr ⟨_, _, rfl, by simp⟩),
        afterValue, readFrom_of_open (t := .comma) rfl rfl, hnext, List.reverse_cons,
        List.append_assoc, List.singleton_append]

end

/-- Reading takes back what writing did, and leaves nothing over. -/
theorem read_write {v : Json} (hv : isPlain v = true) : read ((write v).map some) = ⟨v, false⟩ := by
  have hread := readFrom_write v hv [] .value (.inl rfl) [] (.inl rfl)
  rw [List.append_nil] at hread
  exact hread

theorem readBytes_writeText {v : Json} (hv : isPlain v = true) :
    readBytes (writeText v).toUTF8 = ⟨v, false⟩ := by
  rw [readBytes, Text.charsOfBytes_toUTF8, writeText, String.toList_ofList, read_write hv]

/-! ### Lengths -/

theorem length_le_flatMap_writeChar (cs : List Char) :
    cs.length ≤ (cs.flatMap writeChar).length := by
  induction cs with
  | nil => exact Nat.le_refl 0
  | cons c cs ih =>
    have hpos : 0 < (writeChar c).length := by
      rcases writeChar_cases c with ⟨e, hwrite, -⟩ | ⟨hwrite, -⟩ | ⟨hwrite, -⟩ <;> simp [hwrite]
    rw [List.flatMap_cons, List.length_cons, List.length_append]
    omega

/-- An object is written at greater length than any of its members. -/
theorem length_write_lt_of_mem {members : List (Option String × Json)} {k : Option String}
    {v : Json} (h : (k, v) ∈ members) : (write v).length < (write (.object members)).length := by
  have hmembers : (write v).length ≤ (writeMembers members).length := by
    induction members with
    | nil => cases h
    | cons m ms ih =>
      obtain ⟨k', w⟩ := m
      cases ms with
      | nil =>
        obtain ⟨-, rfl⟩ := Prod.mk.inj (List.mem_singleton.1 h)
        rw [writeMembers, List.length_append, List.length_cons]
        omega
      | cons m' ms =>
        rw [writeMembers_cons, List.length_append, List.length_cons, List.length_append,
          List.length_cons]
        rcases List.mem_cons.1 h with heq | hmem
        · obtain ⟨-, rfl⟩ := Prod.mk.inj heq
          omega
        · have := ih hmem
          omega
  rw [write, List.length_cons, List.length_append]
  omega

end MediaRelay.Json
