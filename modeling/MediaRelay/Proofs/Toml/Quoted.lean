import Mathlib.Data.List.Basic
import MediaRelay.Proofs.Text.Search
import MediaRelay.Toml.Writer
/-! Strings that are written are read back, in each of the four forms. The forms on several lines
hold quotes as they are, never more than two in a row, so that the three that close the string are
the first that can: what is counted is the run of quotes at each place. -/

namespace MediaRelay

namespace Toml

open Text (stripPrefix?)

/-! ### Characters -/

theorem afterBreak?_of_ne {c : Char} (hn : c ≠ '\n') (hr : c ≠ '\r') (rest : List Char) :
    afterBreak? (c :: rest) = none := by
  unfold afterBreak?
  split <;> simp_all

theorem ne_of_isPlain {c : Char} (h : isPlain c = true) : c ≠ '\n' ∧ c ≠ '\r' := by
  constructor <;> rintro rfl <;> exact absurd h (by decide)

theorem afterBreak?_of_isPlain {c : Char} (h : isPlain c = true) (rest : List Char) :
    afterBreak? (c :: rest) = none :=
  afterBreak?_of_ne (ne_of_isPlain h).1 (ne_of_isPlain h).2 rest

theorem isPlain_of_not_needsEscape {c : Char} (h : needsEscape c = false) (hn : c ≠ '\n') :
    isPlain c = true := by
  by_cases ht : c = '\t'
  · subst ht
    rfl
  · simp [needsEscape, ht, hn] at h
    simp [isPlain, ht]
    omega

theorem hexNumber?_hexDigits4 : ∀ n < 128, hexNumber? (hexDigits4 n) = some n := by
  decide +kernel

theorem codePoint?_hexDigits4 {n : ℕ} (h : n < 128) (rest : List Char) :
    codePoint? 4 (hexDigits4 n ++ rest) = some (Char.ofNat n, rest) := by
  have hvalid : n.isValidChar := .inl (by omega)
  have htake : (hexDigits4 n ++ rest).take 4 = hexDigits4 n := by simp [hexDigits4]
  rw [codePoint?, htake, hexNumber?_hexDigits4 n h]
  simp [hvalid, hexDigits4]

/-- The three ways in which a character of a basic string is written: after a backslash, as it is,
or as a break between lines. -/
theorem writeChar_cases (onLines : Bool) (most quotes : ℕ) (c : Char) :
    (∃ e, writeChar onLines most quotes c = '\\' :: e ∧
        ∀ rest, escape? (e ++ rest) = some (c, rest) ∧ afterFold? (e ++ rest) = none) ∨
      (writeChar onLines most quotes c = [c] ∧ isPlain c = true ∧ c ≠ '\\' ∧
        (c = '"' → quotes < most)) ∨
      c = '\n' ∧ onLines = true ∧ writeChar onLines most quotes c = ['\n'] := by
  unfold writeChar
  split
  case h_1 =>
    split
    case isTrue hlt => exact .inr (.inl ⟨rfl, rfl, by decide, fun _ => hlt⟩)
    case isFalse => exact .inl ⟨_, rfl, fun rest => ⟨rfl, rfl⟩⟩
  case h_2 | h_3 | h_4 | h_6 | h_7 => exact .inl ⟨_, rfl, fun rest => ⟨rfl, rfl⟩⟩
  case h_5 =>
    split
    case isTrue hl => exact .inr (.inr ⟨rfl, hl, rfl⟩)
    case isFalse => exact .inl ⟨_, rfl, fun rest => ⟨rfl, rfl⟩⟩
  case h_8 _ hquote hback _ _ _ _ _ =>
    split
    case isTrue hctrl =>
      have hlt : c.toNat < 128 := by
        simp only [Bool.or_eq_true, decide_eq_true_eq] at hctrl
        omega
      refine .inl ⟨_, rfl, fun rest => ⟨?_, rfl⟩⟩
      rw [List.cons_append, escape?, codePoint?_hexDigits4 hlt, Char.ofNat_toNat]
    case isFalse hctrl =>
      refine .inr (.inl ⟨rfl, ?_, hback, fun h => absurd h hquote⟩)
      simp [isPlain] at hctrl ⊢
      omega

/-! ### On one line -/

theorem basicFrom_escape {acc rest rest' : List Char} {c : Char}
    (h : escape? rest = some (c, rest')) :
    basicFrom acc ('\\' :: rest) = basicFrom (c :: acc) rest' := by
  rw [basicFrom]
  split <;> simp_all

theorem basicFrom_plain {c : Char} (hp : isPlain c = true) (hquote : c ≠ '"') (hback : c ≠ '\\')
    (acc rest : List Char) : basicFrom acc (c :: rest) = basicFrom (c :: acc) rest := by
  rw [basicFrom, if_pos hp]
  · exact fun h => hquote h
  · exact fun h => hback h

theorem writeBasic_cons_short (c : Char) (cs : List Char) :
    writeBasic false 0 0 (c :: cs) = writeChar false 0 0 c ++ writeBasic false 0 0 cs := by
  simp [writeBasic]

theorem basicFrom_writeBasic (s acc rest : List Char) :
    basicFrom acc (writeBasic false 0 0 s ++ '"' :: rest) = some (acc.reverse ++ s, rest) := by
  induction s generalizing acc with
  | nil => simp [writeBasic, basicFrom]
  | cons c cs ih =>
    rw [writeBasic_cons_short, List.append_assoc]
    rcases writeChar_cases false 0 0 c with ⟨e, he, hread⟩ | ⟨he, hp, hback, hq⟩ | ⟨-, h, -⟩
    · rw [he, List.cons_append, basicFrom_escape (hread _).1, ih]
      simp
    · have hquote : c ≠ '"' := fun h => absurd (hq h) (Nat.lt_irrefl 0)
      rw [he, List.singleton_append, basicFrom_plain hp hquote hback, ih]
      simp
    · cases h

theorem literal?_append {s : List Char} (h : ∀ c ∈ s, isPlain c = true ∧ c ≠ '\'')
    (rest : List Char) : literal? (s ++ '\'' :: rest) = some (s, rest) := by
  have hspan : Text.span (fun c => isPlain c && c ≠ '\'') (s ++ '\'' :: rest) =
      (s, '\'' :: rest) :=
    (Text.span_eq_cons_iff (by simp)).2 ⟨fun c hc => by simpa using h c hc, rfl⟩
  rw [literal?, hspan]
  rfl

/-! ### On several lines -/

/-- After `k` quotes in a row, no more than `most` come in a row. -/
def RunsWithin (quote : Char) (most : ℕ) : ℕ → List Char → Prop
  | k, [] => k ≤ most
  | k, c :: cs => k ≤ most ∧ RunsWithin quote most (if c = quote then k + 1 else 0) cs

theorem RunsWithin.le {quote : Char} {most k : ℕ} {s : List Char} (h : RunsWithin quote most k s) :
    k ≤ most := by
  cases s with
  | nil => exact h
  | cons c cs => exact h.1

/-- What is left is either a few quotes, or the quotes that come next are too few to close the
string, whatever comes after. -/
theorem RunsWithin.eq_replicate_or {quote : Char} {most k : ℕ} {s : List Char}
    (h : RunsWithin quote most k s) :
    (∃ j, j + k ≤ most ∧ s = List.replicate j quote) ∨
      ∀ rest, ((s ++ rest).takeWhile (· = quote)).length + k ≤ most := by
  induction s generalizing k with
  | nil => exact .inl ⟨0, by simpa using h.le, rfl⟩
  | cons c cs ih =>
    obtain ⟨hk, hcs⟩ := h
    by_cases hc : c = quote
    · subst hc
      rw [if_pos rfl] at hcs
      rcases ih hcs with ⟨j, hj, rfl⟩ | hfew
      · exact .inl ⟨j + 1, by omega, rfl⟩
      · refine .inr fun rest => ?_
        have := hfew rest
        simp only [List.cons_append, decide_true, List.takeWhile_cons_of_pos, List.length_cons]
        omega
    · exact .inr fun rest => by simpa [hc] using hk

theorem closing?_replicate {quote : Char} {j : ℕ} (hj : j ≤ 2) {rest : List Char}
    (hrest : rest.head? ≠ some quote) :
    closing? quote (List.replicate j quote ++ quote :: quote :: quote :: rest) =
      some (List.replicate j quote, rest) := by
  have htext : List.replicate j quote ++ quote :: quote :: quote :: rest =
      List.replicate (j + 3) quote ++ rest := by
    rw [List.replicate_add, List.append_assoc]
    rfl
  have hnone : rest.takeWhile (· = quote) = [] := by
    cases rest with
    | nil => rfl
    | cons c rest => exact List.takeWhile_cons_of_neg (by simpa using hrest)
  have hquotes : (List.replicate (j + 3) quote ++ rest).takeWhile (· = quote) =
      List.replicate (j + 3) quote := by
    rw [List.takeWhile_append_of_pos (by simp), hnone, List.append_nil]
  rw [closing?, htext, hquotes]
  simp [hj]

theorem closing?_eq_none {quote : Char} {s : List Char}
    (h : (s.takeWhile (· = quote)).length ≤ 2) : closing? quote s = none := by
  rw [closing?, if_pos (by omega)]

theorem longBasicFrom_escape {acc rest rest' : List Char} {c : Char}
    (hfold : afterFold? rest = none) (h : escape? rest = some (c, rest')) :
    longBasicFrom acc ('\\' :: rest) = longBasicFrom (c :: acc) rest' := by
  rw [longBasicFrom]
  split <;> simp_all
  split <;> simp_all

theorem longBasicFrom_break (acc rest : List Char) :
    longBasicFrom acc ('\n' :: rest) = longBasicFrom ('\n' :: acc) rest := by
  rw [longBasicFrom]
  · rfl
  · decide

theorem longBasicFrom_closing {c : Char} {acc rest rest' extra : List Char} (hback : c ≠ '\\')
    (hbreak : afterBreak? (c :: rest) = none)
    (h : closing? '"' (c :: rest) = some (extra, rest')) :
    longBasicFrom acc (c :: rest) = some (acc.reverse ++ extra, rest') := by
  rw [longBasicFrom]
  · split <;> simp_all
  · exact fun h => hback h

theorem longBasicFrom_plain {c : Char} {acc rest : List Char} (hback : c ≠ '\\')
    (hp : isPlain c = true) (h : closing? '"' (c :: rest) = none) :
    longBasicFrom acc (c :: rest) = longBasicFrom (c :: acc) rest := by
  have hbreak := afterBreak?_of_isPlain hp rest
  rw [longBasicFrom]
  · split <;> simp_all
  · exact fun h => hback h

/-- Quotes at the end of a string that stand before those that close it. -/
theorem longBasicFrom_quotes {j : ℕ} (hj : j ≤ 2) {rest : List Char}
    (hrest : rest.head? ≠ some '"') (acc : List Char) :
    longBasicFrom acc (List.replicate j '"' ++ '"' :: '"' :: '"' :: rest) =
      some (acc.reverse ++ List.replicate j '"', rest) := by
  have hclose := closing?_replicate hj hrest
  obtain ⟨text, htext⟩ : ∃ text, List.replicate j '"' ++ '"' :: '"' :: '"' :: rest =
      '"' :: text := by
    cases j with
    | zero => exact ⟨_, rfl⟩
    | succ j => exact ⟨_, rfl⟩
  rw [htext] at hclose ⊢
  exact longBasicFrom_closing (by decide) rfl hclose

theorem writeBasic_replicate {most j k : ℕ} (h : j + k ≤ most) (onLines : Bool) :
    writeBasic onLines most k (List.replicate j '"') = List.replicate j '"' := by
  induction j generalizing k with
  | zero => rfl
  | succ j ih =>
    have hk : k < most := by omega
    rw [List.replicate_succ, writeBasic, if_pos (by simpa using hk), ih (by omega)]
    simp [writeChar, hk]

/-- What is left of a string to write is either a few quotes, or the quotes that are written next
are too few to close the string. -/
theorem eq_replicate_or_takeWhile_writeBasic {k : ℕ} (hk : k ≤ 2) (s : List Char) :
    (∃ j, j + k ≤ 2 ∧ s = List.replicate j '"') ∨
      ∀ rest, ((writeBasic true 2 k s ++ rest).takeWhile (· = '"')).length + k ≤ 2 := by
  induction s generalizing k with
  | nil => exact .inl ⟨0, by simpa using hk, rfl⟩
  | cons c cs ih =>
    by_cases hc : c = '"' ∧ k < 2
    · obtain ⟨rfl, hlt⟩ := hc
      rcases ih (k := k + 1) (by omega) with ⟨j, hj, rfl⟩ | hfew
      · exact .inl ⟨j + 1, by omega, rfl⟩
      · refine .inr fun rest => ?_
        have := hfew rest
        simp only [writeBasic, writeChar, hlt, decide_true, Bool.and_self, if_true,
          List.cons_append, List.nil_append, List.takeWhile_cons_of_pos, List.length_cons]
        omega
    · refine .inr fun rest => ?_
      rw [writeBasic]
      rcases writeChar_cases true 2 k c with ⟨e, he, -⟩ | ⟨he, -, -, hq⟩ | ⟨rfl, -, he⟩
      · simpa [he] using hk
      · have hquote : c ≠ '"' := fun h => hc ⟨h, hq h⟩
        simpa [he, hquote] using hk
      · simpa [he] using hk

theorem longBasicFrom_writeBasic {rest : List Char} (hrest : rest.head? ≠ some '"') {k : ℕ}
    (hk : k ≤ 2) (s acc : List Char) :
    longBasicFrom acc (writeBasic true 2 k s ++ '"' :: '"' :: '"' :: rest) =
      some (acc.reverse ++ s, rest) := by
  induction s generalizing acc k with
  | nil => exact longBasicFrom_quotes (Nat.zero_le 2) hrest acc
  | cons c cs ih =>
    rcases eq_replicate_or_takeWhile_writeBasic hk (c :: cs) with ⟨j, hj, hs⟩ | hfew
    · rw [hs, writeBasic_replicate hj]
      exact longBasicFrom_quotes (by omega) hrest acc
    · have hnone := closing?_eq_none (Nat.le_trans (Nat.le_add_right _ k)
        (hfew ('"' :: '"' :: '"' :: rest)))
      have hk' : (if c = '"' && k < 2 then k + 1 else 0) ≤ 2 := by
        split
        case isTrue h =>
          have hlt : k < 2 := by simpa using (Bool.and_eq_true_iff.1 h).2
          exact hlt
        case isFalse => exact Nat.zero_le 2
      rw [writeBasic, List.append_assoc] at hnone ⊢
      rcases writeChar_cases true 2 k c with ⟨e, he, hread⟩ | ⟨he, hp, hback, -⟩ | ⟨rfl, -, he⟩
      · rw [he, List.cons_append, longBasicFrom_escape (hread _).2 (hread _).1, ih hk']
        simp
      · rw [he, List.singleton_append] at hnone ⊢
        rw [longBasicFrom_plain hback hp hnone, ih hk']
        simp
      · rw [he, List.singleton_append, longBasicFrom_break, ih hk']
        simp

theorem longLiteralFrom_break (acc rest : List Char) :
    longLiteralFrom acc ('\n' :: rest) = longLiteralFrom ('\n' :: acc) rest := by
  rw [longLiteralFrom]
  rfl

theorem longLiteralFrom_closing {c : Char} {acc rest rest' extra : List Char}
    (hbreak : afterBreak? (c :: rest) = none)
    (h : closing? '\'' (c :: rest) = some (extra, rest')) :
    longLiteralFrom acc (c :: rest) = some (acc.reverse ++ extra, rest') := by
  rw [longLiteralFrom]
  split <;> simp_all

theorem longLiteralFrom_plain {c : Char} {acc rest : List Char} (hp : isPlain c = true)
    (h : closing? '\'' (c :: rest) = none) :
    longLiteralFrom acc (c :: rest) = longLiteralFrom (c :: acc) rest := by
  have hbreak := afterBreak?_of_isPlain hp rest
  rw [longLiteralFrom]
  split <;> simp_all

theorem longLiteralFrom_quotes {j : ℕ} (hj : j ≤ 2) {rest : List Char}
    (hrest : rest.head? ≠ some '\'') (acc : List Char) :
    longLiteralFrom acc (List.replicate j '\'' ++ '\'' :: '\'' :: '\'' :: rest) =
      some (acc.reverse ++ List.replicate j '\'', rest) := by
  have hclose := closing?_replicate hj hrest
  obtain ⟨text, htext⟩ : ∃ text, List.replicate j '\'' ++ '\'' :: '\'' :: '\'' :: rest =
      '\'' :: text := by
    cases j with
    | zero => exact ⟨_, rfl⟩
    | succ j => exact ⟨_, rfl⟩
  rw [htext] at hclose ⊢
  exact longLiteralFrom_closing rfl hclose

theorem longLiteralFrom_append {rest : List Char} (hrest : rest.head? ≠ some '\'') {k : ℕ}
    {s : List Char} (hruns : RunsWithin '\'' 2 k s) (hs : ∀ c ∈ s, c = '\n' ∨ isPlain c = true)
    (acc : List Char) :
    longLiteralFrom acc (s ++ '\'' :: '\'' :: '\'' :: rest) = some (acc.reverse ++ s, rest) := by
  induction s generalizing acc k with
  | nil => exact longLiteralFrom_quotes (Nat.zero_le 2) hrest acc
  | cons c cs ih =>
    rcases hruns.eq_replicate_or with ⟨j, hj, hs⟩ | hfew
    · rw [hs]
      exact longLiteralFrom_quotes (by omega) hrest acc
    · have hnone := closing?_eq_none (Nat.le_trans (Nat.le_add_right _ k)
        (hfew ('\'' :: '\'' :: '\'' :: rest)))
      have hcs : ∀ d ∈ cs, d = '\n' ∨ isPlain d = true := fun d hd => hs d (.tail c hd)
      rw [List.cons_append] at hnone ⊢
      rcases hs c (.head cs) with rfl | hp
      · rw [longLiteralFrom_break, ih hruns.2 hcs]
        simp
      · rw [longLiteralFrom_plain hp hnone, ih hruns.2 hcs]
        simp

/-! ### Any form -/

/-- The counts of a run, with a run of `k` behind and a longest one of `m` so far. -/
theorem runsWithin_of_foldl {quote : Char} {most m k : ℕ} (hk : k ≤ m) {s : List Char}
    (h : (s.foldl (fun (longest, here) d =>
      if d = quote then (max longest (here + 1), here + 1) else (longest, 0)) (m, k)).1 ≤ most) :
    m ≤ most ∧ RunsWithin quote most k s := by
  induction s generalizing m k with
  | nil =>
    have hm : m ≤ most := h
    exact ⟨hm, Nat.le_trans hk hm⟩
  | cons c cs ih =>
    rw [List.foldl_cons] at h
    by_cases hc : c = quote
    · simp only [hc, if_true] at h
      obtain ⟨hm, hruns⟩ := ih (Nat.le_max_right m (k + 1)) h
      refine ⟨by omega, by omega, ?_⟩
      rwa [if_pos hc]
    · simp only [hc, if_false] at h
      obtain ⟨hm, hruns⟩ := ih (Nat.zero_le m) h
      refine ⟨hm, by omega, ?_⟩
      rwa [if_neg hc]

theorem runsWithin_of_longestRun {quote : Char} {most : ℕ} {s : List Char}
    (h : longestRun quote s ≤ most) : RunsWithin quote most 0 s :=
  (runsWithin_of_foldl (Nat.le_refl 0) h).2

theorem not_mem_of_longestRun_eq_zero {quote : Char} {s : List Char} (h : longestRun quote s = 0) :
    quote ∉ s := by
  have hruns := runsWithin_of_longestRun (Nat.le_of_eq h)
  clear h
  induction s with
  | nil => simp
  | cons c cs ih =>
    have hc : c ≠ quote := by
      rintro rfl
      have := hruns.2.le
      simp at this
    have hcs := hruns.2
    rw [if_neg hc] at hcs
    simp [Ne.symm hc, ih hcs]

theorem skipBreak_of_head? {s : List Char} (hn : s.head? ≠ some '\n') (hr : s.head? ≠ some '\r') :
    skipBreak s = s := by
  cases s with
  | nil => rfl
  | cons c s =>
    rw [skipBreak, afterBreak?_of_ne (by simpa using hn) (by simpa using hr)]
    rfl

/-- What a string on several lines begins with is not part of it. -/
theorem skipBreak_openingBreak {s text : List Char}
    (h : '\n' ∉ s → text.head? ≠ some '\n' ∧ text.head? ≠ some '\r') :
    skipBreak (openingBreak s ++ text) = text := by
  rw [openingBreak]
  split
  · rfl
  · obtain ⟨hn, hr⟩ := h (by simp_all)
    exact skipBreak_of_head? hn hr

theorem head?_writeBasic_long {k : ℕ} {s : List Char} (h : '\n' ∉ s) (rest : List Char) :
    (writeBasic true 2 k s ++ '"' :: rest).head? ≠ some '\n' ∧
      (writeBasic true 2 k s ++ '"' :: rest).head? ≠ some '\r' := by
  cases s with
  | nil => simp [writeBasic]
  | cons c cs =>
    rw [writeBasic]
    rcases writeChar_cases true 2 k c with ⟨e, he, -⟩ | ⟨he, hp, -, -⟩ | ⟨rfl, -, -⟩
    · simp [he]
    · simpa [he] using ne_of_isPlain hp
    · simp at h

theorem quoted?_basic (s : List Char) {rest : List Char} (hrest : rest.head? ≠ some '"') :
    quoted? ('"' :: (writeBasic false 0 0 s ++ ['"']) ++ rest) = some (s, rest) := by
  have htext : '"' :: (writeBasic false 0 0 s ++ ['"']) ++ rest =
      '"' :: (writeBasic false 0 0 s ++ '"' :: rest) := by simp
  have hlong : stripPrefix? ['"', '"', '"'] ('"' :: (writeBasic false 0 0 s ++ '"' :: rest)) =
      none := by
    rw [Option.eq_none_iff_forall_ne_some]
    intro text h
    rw [Text.stripPrefix?_eq_some_iff] at h
    cases s with
    | nil => simp_all [writeBasic]
    | cons c cs =>
      rw [writeBasic_cons_short] at h
      rcases writeChar_cases false 0 0 c with ⟨e, he, -⟩ | ⟨he, -, -, hq⟩ | ⟨-, h', -⟩
      · simp [he] at h
      · have hquote : c ≠ '"' := fun h => absurd (hq h) (Nat.lt_irrefl 0)
        simp [he, hquote] at h
      · cases h'
  have hother : stripPrefix? ['\'', '\'', '\''] ('"' :: (writeBasic false 0 0 s ++ '"' :: rest)) =
      none := rfl
  rw [htext, quoted?, hlong, hother]
  exact basicFrom_writeBasic s [] rest

theorem quoted?_literal {s rest : List Char} (hs : ∀ c ∈ s, isPlain c = true ∧ c ≠ '\'')
    (hrest : rest.head? ≠ some '\'') :
    quoted? ('\'' :: (s ++ ['\'']) ++ rest) = some (s, rest) := by
  have htext : '\'' :: (s ++ ['\'']) ++ rest = '\'' :: (s ++ '\'' :: rest) := by simp
  have hlong : stripPrefix? ['\'', '\'', '\''] ('\'' :: (s ++ '\'' :: rest)) = none := by
    rw [Option.eq_none_iff_forall_ne_some]
    intro text h
    rw [Text.stripPrefix?_eq_some_iff] at h
    cases s with
    | nil => simp_all
    | cons c cs => simp_all
  have hother : stripPrefix? ['"', '"', '"'] ('\'' :: (s ++ '\'' :: rest)) = none := rfl
  rw [htext, quoted?, hother, hlong]
  exact literal?_append hs rest

theorem quoted?_longBasic (s : List Char) {rest : List Char} (hrest : rest.head? ≠ some '"') :
    quoted? ("\"\"\"".toList ++ openingBreak s ++ writeBasic true 2 0 s ++ "\"\"\"".toList ++
      rest) = some (s, rest) := by
  have htext : "\"\"\"".toList ++ openingBreak s ++ writeBasic true 2 0 s ++ "\"\"\"".toList ++
      rest = ['"', '"', '"'] ++
        (openingBreak s ++ (writeBasic true 2 0 s ++ '"' :: '"' :: '"' :: rest)) := by
    simp
  rw [htext, quoted?, Text.stripPrefix?_eq_some_iff.2 rfl]
  dsimp only
  rw [skipBreak_openingBreak fun h => head?_writeBasic_long h ('"' :: '"' :: rest)]
  exact longBasicFrom_writeBasic hrest (Nat.zero_le 2) s []

theorem quoted?_longLiteral {s rest : List Char} (hruns : RunsWithin '\'' 2 0 s)
    (hs : ∀ c ∈ s, c = '\n' ∨ isPlain c = true) (hrest : rest.head? ≠ some '\'') :
    quoted? ("\'\'\'".toList ++ openingBreak s ++ s ++ "\'\'\'".toList ++ rest) =
      some (s, rest) := by
  have htext : "\'\'\'".toList ++ openingBreak s ++ s ++ "\'\'\'".toList ++ rest =
      ['\'', '\'', '\''] ++ (openingBreak s ++ (s ++ '\'' :: '\'' :: '\'' :: rest)) := by
    simp
  have hother : stripPrefix? ['"', '"', '"']
      (['\'', '\'', '\''] ++ (openingBreak s ++ (s ++ '\'' :: '\'' :: '\'' :: rest))) = none := rfl
  rw [htext, quoted?, hother, Text.stripPrefix?_eq_some_iff.2 rfl]
  dsimp only
  rw [skipBreak_openingBreak]
  · exact longLiteralFrom_append hrest hruns hs []
  · intro hn
    cases s with
    | nil => simp
    | cons c cs =>
      have hp : isPlain c = true := by
        rcases hs c (.head cs) with rfl | hp
        · simp at hn
        · exact hp
      simpa using ne_of_isPlain hp

theorem isPlain_of_any_needsEscape {s : List Char} (h : s.any needsEscape = false) :
    ∀ c ∈ s, c = '\n' ∨ isPlain c = true := by
  intro c hc
  by_cases hn : c = '\n'
  · exact .inl hn
  · exact .inr (isPlain_of_not_needsEscape (by simpa using List.any_eq_false.1 h c hc) hn)

theorem of_formOf_literal {s : List Char} (h : formOf s = .literal) :
    ∀ c ∈ s, isPlain c = true ∧ c ≠ '\'' := by
  have hfacts : s.any needsEscape = false ∧ longestRun '\'' s = 0 ∧ '\n' ∉ s := by
    unfold formOf at h
    grind
  obtain ⟨hesc, hsingle, hbreak⟩ := hfacts
  intro c hc
  constructor
  · rcases isPlain_of_any_needsEscape hesc c hc with rfl | hp
    · exact absurd hc hbreak
    · exact hp
  · rintro rfl
    exact not_mem_of_longestRun_eq_zero hsingle hc

theorem of_formOf_longLiteral {s : List Char} (h : formOf s = .longLiteral) :
    RunsWithin '\'' 2 0 s ∧ ∀ c ∈ s, c = '\n' ∨ isPlain c = true := by
  have hfacts : s.any needsEscape = false ∧ longestRun '\'' s ≤ 2 := by
    unfold formOf at h
    grind
  exact ⟨runsWithin_of_longestRun hfacts.2, isPlain_of_any_needsEscape hfacts.1⟩

/-- A string that was written is read back, whatever its text, if no quote follows. -/
theorem quoted?_writeString (s : List Char) {rest : List Char} (hdouble : rest.head? ≠ some '"')
    (hsingle : rest.head? ≠ some '\'') : quoted? (writeString s ++ rest) = some (s, rest) := by
  cases hform : formOf s with
  | basic =>
    rw [writeString, hform]
    exact quoted?_basic s hdouble
  | literal =>
    rw [writeString, hform]
    exact quoted?_literal (of_formOf_literal hform) hsingle
  | longBasic =>
    rw [writeString, hform]
    exact quoted?_longBasic s hdouble
  | longLiteral =>
    rw [writeString, hform]
    obtain ⟨hruns, hs⟩ := of_formOf_longLiteral hform
    exact quoted?_longLiteral hruns hs hsingle

/-- A written string begins with a quote. -/
theorem writeString_eq_cons (s : List Char) :
    ∃ text, writeString s = '"' :: text ∨ writeString s = '\'' :: text := by
  cases hform : formOf s <;> simp [writeString, hform]

end Toml
end MediaRelay
