import Mathlib.Data.List.Basic
import MediaRelay.Decimal.Range
import MediaRelay.Decimal.Unsigned
/-! The decimal digits of a number: they begin with no zero unless it is zero, their value is the
number again, and a number of 64 bits is far within the range of a double. -/

namespace MediaRelay.Decimal

theorem head?_toDigits {n : ℕ} (hn : n ≠ 0) : (Nat.toDigits 10 n).head? ≠ some '0' := by
  induction n using Nat.strongRecOn with
  | ind n ih =>
    rw [Nat.toDigits_eq_if (by decide)]
    split
    case isTrue hlt =>
      have hall : ∀ n < 10, n ≠ 0 → n.digitChar ≠ '0' := by decide
      simpa using hall n hlt hn
    case isFalse hge =>
      have hne : (Nat.toDigits 10 (n / 10)).head? ≠ some '0' := ih (n / 10) (by omega) (by omega)
      cases hds : Nat.toDigits 10 (n / 10) with
      | nil => exact absurd hds Nat.toDigits_ne_nil
      | cons d ds => simpa [hds] using hne

theorem digitsValue_toDigits (n : ℕ) : digitsValue (Nat.toDigits 10 n) = n := by
  have hten := Nat.ofDigitChars_ten_toDigits (n := n)
  rw [Nat.ofDigitChars_eq_foldl] at hten
  simpa only [digitsValue, Nat.mul_comm] using hten

theorem inRange_of_le {n : ℕ} (h : n ≤ Word.maxUnsigned) (count : ℕ) :
    inRange n count 0 = true := by
  have hlt : n < rangeEnd := Nat.lt_of_le_of_lt h (by decide +kernel)
  have hcount : ¬ (0 : Int) < -(count : Int) := by omega
  by_cases hn : n = 0
  · rw [inRange, if_pos hn]
  · rw [inRange, if_neg hn, if_neg (by decide), if_neg hcount, if_pos (Int.le_refl 0)]
    exact decide_eq_true ((Nat.mul_one n).symm ▸ hlt)

structure Spells (s : List Char) (n : ℕ) : Prop where
  digits : ∃ digits, (s = digits ∨ s = '+' :: digits) ∧ digits ≠ [] ∧
    (∀ d ∈ digits, d.isDigit = true) ∧ Nat.ofDigitChars 10 digits 0 = n
  fits : n ≤ Word.maxUnsigned

theorem digitsValue_eq (digits : List Char) :
    digitsValue digits = Nat.ofDigitChars 10 digits 0 := by
  rw [Nat.ofDigitChars_eq_foldl]
  simp only [digitsValue, Nat.mul_comm]

theorem value?_eq_some_iff {digits : List Char} {n : ℕ} : value? digits = some n ↔
    digits ≠ [] ∧ (∀ d ∈ digits, d.isDigit = true) ∧ Nat.ofDigitChars 10 digits 0 = n ∧
      n ≤ Word.maxUnsigned := by
  unfold value?
  dsimp only
  rw [← digitsValue_eq]
  split_ifs with hbad hfits
  · have hbad : ¬ (digits ≠ [] ∧ ∀ d ∈ digits, d.isDigit = true) := by
      simpa [or_iff_not_imp_left] using hbad
    constructor
    · intro h
      cases h
    · rintro ⟨hne, hall, -⟩
      exact absurd ⟨hne, hall⟩ hbad
  all_goals
    obtain ⟨hne, hall⟩ : digits ≠ [] ∧ ∀ d ∈ digits, d.isDigit = true := by simpa using hbad
    constructor
  · rintro ⟨⟩
    exact ⟨hne, hall, rfl, hfits⟩
  · rintro ⟨-, -, rfl, -⟩
    rfl
  · intro h
    cases h
  · rintro ⟨-, -, rfl, hle⟩
    exact absurd hle hfits

theorem unsigned?_eq_some_iff {s : List Char} {n : ℕ} : unsigned? s = some n ↔ Spells s n := by
  constructor
  · intro h
    unfold unsigned? at h
    split at h
    all_goals obtain ⟨hne, hall, hvalue, hfits⟩ := value?_eq_some_iff.1 h
    · exact ⟨⟨_, .inr rfl, hne, hall, hvalue⟩, hfits⟩
    · exact ⟨⟨_, .inl rfl, hne, hall, hvalue⟩, hfits⟩
  · rintro ⟨⟨digits, rfl | rfl, hne, hall, hvalue⟩, hfits⟩
    all_goals have h := value?_eq_some_iff.2 ⟨hne, hall, hvalue, hfits⟩
    · unfold unsigned?
      split
      · exact absurd (hall '+' (.head _)) (by decide)
      · exact h
    · exact h

end MediaRelay.Decimal
