import Mathlib.Tactic
import MediaRelay.Text.Case
/-! Lower-casing twice is lower-casing once. No character that a run of the table maps to lies in a
run again, and neither form of a small sigma maps to anything else. -/

namespace MediaRelay.Text

/-- No character from `first` to `last`, in steps of `stride`, lies in `s`: the two are apart, or
never meet. -/
def CaseRun.isMissedBy (first last stride : ℕ) (s : CaseRun) : Bool :=
  Nat.blt last s.first || Nat.blt s.last first ||
    (stride % s.stride == 0 || first == last) && Nat.blt s.first first &&
      (first - s.first) % s.stride != 0

/-- Whether a run maps to characters past the capitals of ASCII, to none that is treated by itself,
and to none that is mapped again. -/
def CaseRun.isSound (r : CaseRun) : Bool :=
  let first := (r.first + r.shift).toNat
  let last := (r.last + r.shift).toNat
  Nat.blt 0x5A first && (Nat.blt last 0xD800 || Nat.blt 0xDFFF first && Nat.blt last 0x110000) &&
    (Nat.blt last 0x130 || Nat.blt 0x130 first) && (Nat.blt last 0x3A3 || Nat.blt 0x3A3 first) &&
    lowerRuns.all (isMissedBy first last r.stride)

theorem lowerRuns_isSound : ∀ r ∈ lowerRuns, r.isSound = true := by
  decide +kernel

theorem CaseRun.holds_iff {r : CaseRun} {c : Char} :
    r.holds c = true ↔ r.first ≤ c.toNat ∧ c.toNat ≤ r.last ∧ r.stride ∣ c.toNat - r.first := by
  simp [CaseRun.holds, and_assoc, Nat.dvd_iff_mod_eq_zero]

/-- The ends of what a sound run maps to. -/
theorem ends_of_isSound {r : CaseRun} (h : r.isSound = true) :
    ∃ first last : ℕ, (first : ℤ) = r.first + r.shift ∧
      (r.first ≤ r.last → (last : ℤ) = r.last + r.shift) ∧
      0x5A < first ∧ (last < 0xD800 ∨ 0xDFFF < first ∧ last < 0x110000) ∧
      (last < 0x130 ∨ 0x130 < first) ∧ (last < 0x3A3 ∨ 0x3A3 < first) ∧
      ∀ s ∈ lowerRuns, CaseRun.isMissedBy first last r.stride s = true := by
  simp only [CaseRun.isSound, Bool.and_eq_true, Bool.or_eq_true, Nat.blt_eq, List.all_eq_true] at h
  obtain ⟨⟨⟨⟨hlo, hvalid⟩, hdot⟩, hsigma⟩, hmiss⟩ := h
  exact ⟨_, _, by omega, by omega, hlo, hvalid, hdot, hsigma, hmiss⟩

theorem not_holds_of_isMissedBy {r s : CaseRun} {c d : Char} {first last : ℕ}
    (hfirst : (first : ℤ) = r.first + r.shift) (hlast : (last : ℤ) = r.last + r.shift)
    (h : CaseRun.isMissedBy first last r.stride s = true) (hc : r.holds c = true)
    (hd : (d.toNat : ℤ) = c.toNat + r.shift) : s.holds d ≠ true := by
  intro hs
  obtain ⟨hc1, hc2, hc3⟩ := CaseRun.holds_iff.1 hc
  obtain ⟨hs1, hs2, hs3⟩ := CaseRun.holds_iff.1 hs
  simp only [CaseRun.isMissedBy, Bool.or_eq_true, Bool.and_eq_true, Nat.blt_eq, beq_iff_eq,
    bne_iff_ne] at h
  rcases h with (h | h) | ⟨⟨hstep, hbelow⟩, hmod⟩
  · omega
  · omega
  · apply hmod
    have hr : s.stride ∣ c.toNat - r.first := by
      rcases hstep with hdvd | heq
      · exact (Nat.dvd_of_mod_eq_zero hdvd).trans hc3
      · rw [show c.toNat - r.first = 0 by omega]
        exact dvd_zero _
    have hsum : d.toNat - s.first = c.toNat - r.first + (first - s.first) := by omega
    rw [hsum] at hs3
    exact Nat.mod_eq_zero_of_dvd ((Nat.dvd_add_right hr).1 hs3)

def IsLower (c : Char) : Prop := c ≠ 'Σ' ∧ lowerChar c = [c]

theorem toNat_ofNat {n : ℕ} (h : n.isValidChar) : (Char.ofNat n).toNat = n := by
  rw [Char.ofNat, dif_pos h]
  rfl

theorem toLower_eq_self {c : Char} (h : 0x5B ≤ c.toNat) : c.toLower = c := by
  have : ¬ (c.val ≥ 'A'.val ∧ c.val ≤ 'Z'.val) := by
    rintro ⟨-, hle⟩
    have := UInt32.le_iff_toNat_le.1 hle
    change 0x5B ≤ c.val.toNat at h
    change c.val.toNat ≤ 90 at this
    omega
  exact dif_neg this

theorem lowerChar_eq_self {c : Char} (hcap : 0x5B ≤ c.toNat) (hdot : c ≠ 'İ')
    (hmiss : ∀ s ∈ lowerRuns, s.holds c ≠ true) : lowerChar c = [c] := by
  have hnone : lowerRuns.find? (·.holds c) = none := List.find?_eq_none.2 hmiss
  rw [lowerChar, if_neg hdot, hnone, toLower_eq_self hcap, ite_self]

theorem isLower_of_isMissed {d : Char} (hcap : 0x5B ≤ d.toNat) (hdot : d ≠ 'İ') (hsigma : d ≠ 'Σ')
    (h : lowerRuns.all (CaseRun.isMissedBy d.toNat d.toNat 1) = true) : IsLower d := by
  refine ⟨hsigma, lowerChar_eq_self hcap hdot fun s hs hholds => ?_⟩
  obtain ⟨h1, h2, h3⟩ := CaseRun.holds_iff.1 hholds
  have hmiss := List.all_eq_true.1 h s hs
  simp only [CaseRun.isMissedBy, Bool.or_eq_true, Bool.and_eq_true, Nat.blt_eq, bne_iff_ne] at hmiss
  rcases hmiss with (hlt | hlt) | ⟨-, hmod⟩
  · omega
  · omega
  · exact hmod (Nat.mod_eq_zero_of_dvd h3)

theorem isLower_of_run {r : CaseRun} {c : Char} (hmem : r ∈ lowerRuns) (hc : r.holds c = true) :
    IsLower (Char.ofNat (c.toNat + r.shift).toNat) := by
  obtain ⟨first, last, hfirst, hlast, hlo, hvalid, hdot, hsigma, hmiss⟩ :=
    ends_of_isSound (lowerRuns_isSound r hmem)
  obtain ⟨hc1, hc2, -⟩ := CaseRun.holds_iff.1 hc
  have hlast := hlast (hc1.trans hc2)
  have hd : ((Char.ofNat (c.toNat + r.shift).toNat).toNat : ℤ) = c.toNat + r.shift := by
    rw [toNat_ofNat (by unfold Nat.isValidChar; omega)]
    omega
  set d := Char.ofNat (c.toNat + r.shift).toNat
  have hne : ∀ e : Char, last < e.toNat ∨ e.toNat < first → d ≠ e := by
    rintro e he rfl
    omega
  exact ⟨hne 'Σ' hsigma, lowerChar_eq_self (by omega) (hne 'İ' hdot) fun s hs =>
    not_holds_of_isMissedBy hfirst hlast (hmiss s hs) hc hd⟩

theorem isLower_toLower {c : Char} (h : c.toNat < 0x80) : IsLower c.toLower := by
  have hall : ∀ n < 0x80, IsLower (Char.ofNat n).toLower := by
    unfold IsLower
    decide
  rw [← Char.ofNat_toNat c]
  exact hall _ h

/-- Every character of a lower-case form is in lower case. -/
theorem isLower_of_mem_lowerChar {c d : Char} (hc : c ≠ 'Σ') (hd : d ∈ lowerChar c) :
    IsLower d := by
  unfold lowerChar at hd
  split_ifs at hd with hascii hdot
  · rw [List.mem_singleton.1 hd]
    exact isLower_toLower hascii
  · rcases List.mem_pair.1 hd with rfl | rfl
    · exact isLower_of_isMissed (by decide) (by decide) (by decide) (by decide +kernel)
    · exact isLower_of_isMissed (by decide) (by decide) (by decide) (by decide +kernel)
  · split at hd
    · next r hr =>
      rw [List.mem_singleton.1 hd]
      exact isLower_of_run (List.mem_of_find?_eq_some hr) (by simpa using List.find?_some hr)
    · next hnone =>
      obtain rfl := List.mem_singleton.1 hd
      refine ⟨hc, ?_⟩
      rw [lowerChar, if_neg hascii, if_neg hdot, hnone]

theorem isLower_of_mem_lowerAfter {s before : List Char} {d : Char} (hd : d ∈ lowerAfter before s) :
    IsLower d := by
  induction s generalizing before with
  | nil => simp [lowerAfter] at hd
  | cons c rest ih =>
    simp only [lowerAfter, List.mem_append] at hd
    rcases hd with hd | hd
    · by_cases hc : c = 'Σ'
      · rw [if_pos hc] at hd
        split_ifs at hd
        · rw [List.mem_singleton.1 hd]
          exact isLower_of_isMissed (by decide) (by decide) (by decide) (by decide +kernel)
        · rw [List.mem_singleton.1 hd]
          exact isLower_of_isMissed (by decide) (by decide) (by decide) (by decide +kernel)
      · rw [if_neg hc] at hd
        exact isLower_of_mem_lowerChar hc hd
    · exact ih hd

theorem lowerAfter_eq_self {s before : List Char} (h : ∀ c ∈ s, IsLower c) :
    lowerAfter before s = s := by
  induction s generalizing before with
  | nil => rfl
  | cons c rest ih =>
    obtain ⟨hc, hrest⟩ := List.forall_mem_cons.1 h
    rw [lowerAfter, if_neg hc.1, hc.2, ih hrest]
    rfl

theorem lower_lower (s : List Char) : lower (lower s) = lower s :=
  lowerAfter_eq_self fun _ h => isLower_of_mem_lowerAfter h

end MediaRelay.Text

namespace MediaRelay

theorem lowerText_lowerText (s : String) : lowerText (lowerText s) = lowerText s := by
  rw [lowerText, lowerText, String.toList_ofList, Text.lower_lower]

end MediaRelay
