import Mathlib.Data.List.Basic
import MediaRelay.Proofs.Decimal
import MediaRelay.Toml.Scalar
import MediaRelay.Toml.Writer
/-! Integers and truth values that are written are read back. A run of digits that ends at a comma,
a bracket or a line break is no date, no time and no real number, since all of these need a mark in
its place. -/

namespace MediaRelay.Toml

open Text (stripPrefix?)

structure IsRun (ds : List Char) (c : Char) : Prop where
  digits : ∀ d ∈ ds, d.isDigit = true
  ne_nil : ds ≠ []
  /-- no zero leads, but zero itself -/
  lead : ds = ['0'] ∨ ds.head? ≠ some '0'
  stop : c = '\n' ∨ c = ',' ∨ c = ']'

theorem IsRun.stop_not_isDigit {ds : List Char} {c : Char} (h : IsRun ds c) :
    c.isDigit = false := by
  rcases h.stop with rfl | rfl | rfl <;> rfl

theorem isRun_toDigits (n : ℕ) {c : Char} (hc : c = '\n' ∨ c = ',' ∨ c = ']') :
    IsRun (Nat.toDigits 10 n) c where
  digits _ hd := Nat.isDigit_of_mem_toDigits (by decide) (by decide) hd
  ne_nil := Nat.toDigits_ne_nil
  lead := by
    by_cases hn : n = 0
    · exact .inl (hn ▸ Nat.toDigits_zero 10)
    · exact .inr (Decimal.head?_toDigits hn)
  stop := hc

theorem writeInteger_eq (n : Int) :
    writeInteger n =
      if 0 ≤ n then Nat.toDigits 10 n.toNat else '-' :: Nat.toDigits 10 (-n).toNat := by
  rw [writeInteger, show toString n = n.repr from rfl, Int.repr_eq_if]
  split <;> simp [Nat.repr_eq_ofList_toDigits]

theorem moreDigits?_append {ds : List Char} {c : Char} (hds : ∀ d ∈ ds, d.isDigit = true)
    (hc : c.isDigit = false) (hunder : c ≠ '_') (acc rest : List Char) :
    moreDigits? Char.isDigit acc (ds ++ c :: rest) = some (acc.reverse ++ ds, c :: rest) := by
  induction ds generalizing acc with
  | nil =>
    unfold moreDigits?
    split <;> simp_all
  | cons d ds ih =>
    have hd : d.isDigit = true := hds d (by simp)
    have hne : d ≠ '_' := by
      rintro rfl
      exact absurd hd (by decide)
    rw [List.cons_append]
    unfold moreDigits?
    split <;> simp_all

theorem IsRun.whole?_append {ds : List Char} {c : Char} (h : IsRun ds c) (rest : List Char) :
    whole? (ds ++ c :: rest) = some (ds, c :: rest) := by
  have hunder : c ≠ '_' := by
    rcases h.stop with rfl | rfl | rfl <;> decide
  rcases h.lead with rfl | hlead
  · rfl
  · obtain ⟨d, ds, rfl⟩ := List.exists_cons_of_ne_nil h.ne_nil
    have hd : d.isDigit = true := h.digits d (by simp)
    have hds : ∀ x ∈ ds, x.isDigit = true := fun x hx => h.digits x (.tail d hx)
    rw [List.cons_append]
    unfold whole?
    split
    · simp_all
    · rw [digitRun?, if_pos hd, moreDigits?_append hds h.stop_not_isDigit hunder]
      rfl

theorem sign_of_isDigit {d : Char} (hd : d.isDigit = true) (rest : List Char) :
    sign (d :: rest) = (false, d :: rest) := by
  unfold sign
  split <;> simp_all

/-! ### What a run of digits is not -/

theorem of_field?_eq_some {count least most n : ℕ} {s rest : List Char}
    (h : field? count least most s = some (n, rest)) :
    rest = s.drop count ∧ count ≤ s.length ∧ ∀ d ∈ s.take count, d.isDigit = true := by
  simp only [field?, Bool.and_eq_true, decide_eq_true_eq, List.length_take, List.all_eq_true] at h
  split at h
  case isTrue hs => exact ⟨(Prod.mk.inj (Option.some.inj h)).2.symm, by omega, hs.1.1.2⟩
  case isFalse => cases h

/-- After a field of a date or a time comes a mark. No mark comes after digits of a run. -/
theorem IsRun.not_mark {ds : List Char} {c : Char} (hrun : IsRun ds c) {mark : Char}
    (hmark : mark.isDigit = false) (hne : c ≠ mark) {count least most n : ℕ} {rest s : List Char}
    (h : field? count least most (ds ++ c :: rest) = some (n, s)) :
    stripPrefix? [mark] s = none := by
  obtain ⟨rfl, -, hdigits⟩ := of_field?_eq_some h
  have hle : count ≤ ds.length := by
    by_contra hlt
    have hmem : c ∈ (ds ++ c :: rest).take count := by
      rw [List.take_append]
      refine List.mem_append_right _ ?_
      obtain ⟨k, hk⟩ : ∃ k, count - ds.length = k + 1 := ⟨count - ds.length - 1, by omega⟩
      simp [hk]
    exact absurd (hdigits c hmem) (by simp [hrun.stop_not_isDigit])
  rw [List.drop_append_of_le_length hle]
  cases hdrop : ds.drop count with
  | nil => simp [stripPrefix?, hne.symm]
  | cons d more =>
    have hd : d.isDigit = true := hrun.digits d (List.mem_of_mem_drop (hdrop ▸ List.mem_cons_self))
    have : mark ≠ d := by
      rintro rfl
      simp [hmark] at hd
    simp [stripPrefix?, this]

theorem IsRun.afterMoment?_eq_none {ds : List Char} {c : Char} (h : IsRun ds c) (rest : List Char) :
    afterMoment? (ds ++ c :: rest) = none := by
  have hdash : c ≠ '-' := by rcases h.stop with rfl | rfl | rfl <;> decide
  have hcolon : c ≠ ':' := by rcases h.stop with rfl | rfl | rfl <;> decide
  have hdate : afterDate? (ds ++ c :: rest) = none := by
    rw [afterDate?]
    cases hyear : field? 4 0 9999 (ds ++ c :: rest) with
    | none => rfl
    | some r => simp [h.not_mark (by decide) hdash hyear]
  have htime : afterTime? (ds ++ c :: rest) = none := by
    rw [afterTime?]
    cases hhour : field? 2 0 23 (ds ++ c :: rest) with
    | none => rfl
    | some r => simp [h.not_mark (by decide) hcolon hhour]
  rw [afterMoment?, hdate, htime]

/-- What begins with a minus sign is no date and no time. -/
theorem afterMoment?_minus (rest : List Char) : afterMoment? ('-' :: rest) = none := by
  have hfield : ∀ count least most, field? (count + 1) least most ('-' :: rest) = none := by
    intro count least most
    rw [Option.eq_none_iff_forall_ne_some]
    rintro ⟨n, s⟩ h
    have hminus := (of_field?_eq_some h).2.2 '-' (by simp)
    exact absurd hminus (by decide)
  have hdate : afterDate? ('-' :: rest) = none := by
    rw [afterDate?, hfield]
    rfl
  have htime : afterTime? ('-' :: rest) = none := by
    rw [afterTime?, hfield]
    rfl
  rw [afterMoment?, hdate, htime]

theorem realTail?_of_stop {c : Char} (h : c = '\n' ∨ c = ',' ∨ c = ']') (rest : List Char) :
    realTail? (c :: rest) = none := by
  rcases h with rfl | rfl | rfl <;> rfl

theorem IsRun.head_isDigit {ds : List Char} {c : Char} (h : IsRun ds c) (rest : List Char) :
    ∃ d more, ds ++ c :: rest = d :: more ∧ d.isDigit = true := by
  obtain ⟨d, ds, rfl⟩ := List.exists_cons_of_ne_nil h.ne_nil
  exact ⟨d, ds ++ c :: rest, rfl, h.digits d (by simp)⟩

theorem stripPrefix?_cons_of_ne {m d : Char} (h : m ≠ d) (ms s : List Char) :
    stripPrefix? (m :: ms) (d :: s) = none := by
  simp [stripPrefix?, h]

/-- What begins with a digit or a minus sign is no truth value and no number by name. -/
theorem stripPrefix?_of_isDigit {m d : Char} (hm : m.isDigit = false) (hd : d.isDigit = true)
    (ms s : List Char) : stripPrefix? (m :: ms) (d :: s) = none :=
  stripPrefix?_cons_of_ne (by rintro rfl; simp [hm] at hd) ms s

theorem IsRun.real?_eq_none {ds : List Char} {c : Char} (h : IsRun ds c) (minus : Bool)
    (rest : List Char) : real? ((if minus then ['-'] else []) ++ (ds ++ c :: rest)) = none := by
  obtain ⟨d, more, hmore, hd⟩ := h.head_isDigit rest
  have hsign : sign ((if minus then ['-'] else []) ++ (ds ++ c :: rest)) =
      (minus, ds ++ c :: rest) := by
    cases minus with
    | true => rfl
    | false =>
      rw [hmore]
      exact sign_of_isDigit hd more
  have hinf : stripPrefix? ['i', 'n', 'f'] (ds ++ c :: rest) = none :=
    hmore ▸ stripPrefix?_of_isDigit rfl hd _ more
  have hnan : stripPrefix? ['n', 'a', 'n'] (ds ++ c :: rest) = none :=
    hmore ▸ stripPrefix?_of_isDigit rfl hd _ more
  rw [real?, hsign]
  simp [hinf, hnan, h.whole?_append, realTail?_of_stop h.stop]

theorem ofInt?_val (n : Word.Signed) : ofInt? n.val = some (.integer n) := by
  rw [ofInt?, dif_pos n.property]

/-- No mark of a base comes after the first digit. -/
theorem IsRun.ne_based {ds : List Char} {c : Char} (h : IsRun ds c) {mark : Char}
    (hmark : mark ≠ '\n' ∧ mark ≠ ',' ∧ mark ≠ ']') (rest more : List Char) :
    ds ++ c :: rest ≠ '0' :: mark :: more := by
  intro heq
  rcases h.lead with rfl | hlead
  · obtain rfl : c = mark := by simpa using (List.cons.inj (List.cons.inj heq).2).1
    rcases h.stop with rfl | rfl | rfl <;> simp at hmark
  · obtain ⟨d, ds, rfl⟩ := List.exists_cons_of_ne_nil h.ne_nil
    simp only [List.cons_append, List.cons.injEq] at heq
    simp [heq.1] at hlead

theorem IsRun.integer?_append {ds : List Char} {c : Char} (h : IsRun ds c) (minus : Bool)
    {n : Word.Signed} (hn : n.val = if minus then -(Decimal.digitsValue ds : Int)
      else Decimal.digitsValue ds) (rest : List Char) :
    integer? ((if minus then ['-'] else []) ++ (ds ++ c :: rest)) =
      some (.integer n, c :: rest) := by
  obtain ⟨d, more, hmore, hd⟩ := h.head_isDigit rest
  have hsign : sign ((if minus then ['-'] else []) ++ (ds ++ c :: rest)) =
      (minus, ds ++ c :: rest) := by
    cases minus with
    | true => rfl
    | false =>
      rw [hmore]
      exact sign_of_isDigit hd more
  have hbased : ∀ mark more, mark ≠ '\n' ∧ mark ≠ ',' ∧ mark ≠ ']' →
      (if minus then ['-'] else []) ++ (ds ++ c :: rest) ≠ '0' :: mark :: more := by
    intro mark more hmark
    cases minus with
    | true => simp
    | false => exact h.ne_based hmark rest more
  unfold integer?
  split
  case h_1 heq => exact absurd heq (hbased _ _ (by decide))
  case h_2 heq => exact absurd heq (hbased _ _ (by decide))
  case h_3 heq => exact absurd heq (hbased _ _ (by decide))
  case h_4 =>
    rw [hsign]
    simp only [h.whole?_append, Option.bind_eq_bind, Option.bind_some, Option.pure_def]
    rw [← hn, ofInt?_val]
    rfl

/-- An integer that was written is read back, up to where a value may end. -/
theorem scalar?_writeInteger (n : Word.Signed) {c : Char} (hc : c = '\n' ∨ c = ',' ∨ c = ']')
    (rest : List Char) :
    scalar? (writeInteger n.val ++ c :: rest) = some (.integer n, c :: rest) := by
  obtain ⟨minus, m, hwrite, hn⟩ : ∃ (minus : Bool) (m : ℕ),
      writeInteger n.val ++ c :: rest =
        (if minus then ['-'] else []) ++ (Nat.toDigits 10 m ++ c :: rest) ∧
      n.val = if minus then -(m : Int) else m := by
    rw [writeInteger_eq]
    by_cases hpos : 0 ≤ n.val
    · exact ⟨false, n.val.toNat, by simp [hpos], by simp [Int.toNat_of_nonneg hpos]⟩
    · refine ⟨true, (-n.val).toNat, by simp [hpos], ?_⟩
      simp only [if_true]
      omega
  have h := isRun_toDigits m hc
  obtain ⟨d, more, hmore, hd⟩ := h.head_isDigit rest
  have hmoment : afterMoment? ((if minus then ['-'] else []) ++ (Nat.toDigits 10 m ++ c :: rest)) =
      none := by
    cases minus with
    | true => exact afterMoment?_minus _
    | false => exact h.afterMoment?_eq_none rest
  have hword : ∀ name ms, name.isDigit = false → name ≠ '-' → stripPrefix? (name :: ms)
      ((if minus then ['-'] else []) ++ (Nat.toDigits 10 m ++ c :: rest)) = none := by
    intro name ms hname hminus
    cases minus with
    | true => exact stripPrefix?_cons_of_ne hminus _ _
    | false =>
      rw [hmore]
      exact stripPrefix?_of_isDigit hname hd _ _
  rw [hwrite, scalar?, hmoment]
  dsimp only
  rw [show "true".toList = 't' :: ['r', 'u', 'e'] by simp,
    show "false".toList = 'f' :: ['a', 'l', 's', 'e'] by simp,
    hword _ _ (by decide) (by decide), hword _ _ (by decide) (by decide), h.real?_eq_none,
    h.integer?_append minus (by rw [Decimal.digitsValue_toDigits, hn])]
  rfl

end MediaRelay.Toml
