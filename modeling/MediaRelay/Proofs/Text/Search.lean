import Mathlib.Data.List.TakeWhile
import MediaRelay.Proofs.List
import MediaRelay.Text.Search
/-! What the searches in a text find, told without their loops: the leftmost place where something
is found, a text up to the end of a class, what stands behind a marker, the pieces between separators,
and a text in which a piece is replaced. -/

namespace MediaRelay.Text

variable {α : Type} {f : List Char → Option α} {s t rest : List Char} {a : α}

/-! ### The leftmost place -/

theorem firstMatch_eq_some_iff :
    firstMatch f s = some a ↔
      ∃ i ≤ s.length, f (s.drop i) = some a ∧ ∀ j < i, f (s.drop j) = none := by
  induction s with
  | nil =>
    simp [firstMatch]
  | cons c s ih =>
    unfold firstMatch
    cases hf : f (c :: s) with
    | some b =>
      constructor
      · intro h
        exact ⟨0, Nat.zero_le _, hf.trans h, fun j hj => absurd hj (Nat.not_lt_zero j)⟩
      · rintro ⟨i, -, hi, hearlier⟩
        cases i with
        | zero => exact hf.symm.trans hi
        | succ i => exact absurd (hf.symm.trans (hearlier 0 (Nat.succ_pos i))) (by simp)
    | none =>
      simp only [ih]
      constructor
      · rintro ⟨i, hle, hi, hearlier⟩
        refine ⟨i + 1, Nat.succ_le_succ hle, hi, fun j hj => ?_⟩
        cases j with
        | zero => exact hf
        | succ j => exact hearlier j (Nat.lt_of_succ_lt_succ hj)
      · rintro ⟨i, hle, hi, hearlier⟩
        cases i with
        | zero => simp [hf] at hi
        | succ i =>
          exact ⟨i, Nat.le_of_succ_le_succ hle, hi, fun j hj => hearlier (j + 1) (by omega)⟩

/-- The leftmost place, told by what stands before it and what begins there. -/
theorem firstMatch_eq_some_iff_append :
    firstMatch f s = some a ↔
      ∃ before rest, s = before ++ rest ∧ f rest = some a ∧
        ∀ i < before.length, f (s.drop i) = none := by
  rw [firstMatch_eq_some_iff]
  constructor
  · rintro ⟨i, hle, hi, hearlier⟩
    refine ⟨s.take i, s.drop i, (List.take_append_drop i s).symm, hi, ?_⟩
    rwa [List.length_take_of_le hle]
  · rintro ⟨before, rest, rfl, hrest, hearlier⟩
    refine ⟨before.length, by simp, ?_, hearlier⟩
    rwa [List.drop_left]

theorem firstMatch_eq_none_iff : firstMatch f s = none ↔ ∀ i, f (s.drop i) = none := by
  induction s with
  | nil => simp [firstMatch]
  | cons c s ih =>
    unfold firstMatch
    cases hf : f (c :: s) with
    | some b =>
      constructor
      · intro h
        cases h
      · intro h
        exact absurd (hf.symm.trans (h 0)) (by simp)
    | none =>
      simp only [ih]
      constructor
      · intro h i
        cases i with
        | zero => exact hf
        | succ i => exact h i
      · intro h i
        exact h (i + 1)

/-! ### Up to the end of a class -/

theorem spanFrom_eq (p : Char → Bool) (acc s : List Char) :
    spanFrom p acc s = (acc.reverse ++ s.takeWhile p, s.dropWhile p) := by
  induction s generalizing acc with
  | nil => simp [spanFrom]
  | cons c s ih => by_cases hc : p c = true <;> simp [spanFrom, hc, ih]

/-- A span is the one way to split a text into characters of the class and a rest that begins
with none. -/
theorem span_eq_iff {p : Char → Bool} :
    span p s = (t, rest) ↔
      (∀ c ∈ t, p c = true) ∧ (∀ c ∈ rest.head?, p c = false) ∧ s = t ++ rest := by
  rw [span, spanFrom_eq]
  constructor
  · intro h
    obtain ⟨rfl, rfl⟩ := Prod.mk.inj h
    exact ⟨fun c hc => List.mem_takeWhile_imp hc, fun c hc => not_of_mem_head?_dropWhile hc,
      (List.takeWhile_append_dropWhile (p := p)).symm⟩
  · rintro ⟨ht, hrest, rfl⟩
    rw [List.takeWhile_append_of_pos ht, List.dropWhile_append_of_pos ht,
      (takeWhile_of_head? hrest).1, (takeWhile_of_head? hrest).2]
    simp

/-- A span up to a character that is not of the class. -/
theorem span_eq_cons_iff {p : Char → Bool} {c : Char} (hc : p c = false) :
    span p s = (t, c :: rest) ↔ (∀ d ∈ t, p d = true) ∧ s = t ++ c :: rest := by
  rw [span_eq_iff]
  simp [hc]

structure IsWholeRun (p : Char → Bool) (run after : List Char) : Prop where
  mem : ∀ c ∈ run, p c = true
  ends : ∀ c ∈ after.head?, p c = false

theorem takeWhile_eq_iff {p : Char → Bool} :
    s.takeWhile p = t ↔ ∃ after, s = t ++ after ∧ IsWholeRun p t after := by
  have hspan : span p s = (s.takeWhile p, s.dropWhile p) := spanFrom_eq p [] s
  constructor
  · rintro rfl
    obtain ⟨hmem, hends, hs⟩ := span_eq_iff.1 hspan
    exact ⟨s.dropWhile p, hs, hmem, hends⟩
  · rintro ⟨after, hs, hmem, hends⟩
    have hspan' := span_eq_iff.2 ⟨hmem, hends, hs⟩
    exact congrArg Prod.fst (hspan.symm.trans hspan')

/-! ### Behind a marker -/

/-- One of the markers stands first, and a character of the class right after it. -/
def Announces (markers : List String) (p : Char → Bool) (s : List Char) : Prop :=
  ∃ marker ∈ markers, ∃ c rest, s = marker.toList ++ c :: rest ∧ p c = true

/-- Of two markers of which neither begins the other, one at most begins a text. -/
theorem stripPrefix?_orElse_eq_some_iff {marker other : String}
    (h : ¬ marker.toList <+: other.toList) (h' : ¬ other.toList <+: marker.toList) :
    (stripPrefix? marker.toList s <|> stripPrefix? other.toList s) = some rest ↔
      ∃ m ∈ [marker, other], s = m.toList ++ rest := by
  rw [Option.orElse_eq_orElse, Option.orElse_eq_or, Option.or_eq_some_iff, stripPrefix?_eq_some_iff,
    stripPrefix?_eq_some_iff]
  constructor
  · rintro (hs | ⟨-, hs⟩)
    · exact ⟨marker, by simp, hs⟩
    · exact ⟨other, by simp, hs⟩
  · rintro ⟨m, hm, rfl⟩
    obtain rfl | rfl : m = marker ∨ m = other := by simpa using hm
    · exact .inl rfl
    · refine .inr ⟨?_, rfl⟩
      rw [Option.eq_none_iff_forall_ne_some]
      intro left hleft
      have hprefix : marker.toList <+: m.toList ++ rest :=
        ⟨left, (stripPrefix?_eq_some_iff.1 hleft).symm⟩
      rcases List.prefix_or_prefix_of_prefix hprefix (List.prefix_append _ _) with hp | hp
      · exact h hp
      · exact h' hp

theorem announces_pair_iff {marker other : String} {p : Char → Bool}
    (h : ¬ marker.toList <+: other.toList) (h' : ¬ other.toList <+: marker.toList) :
    Announces [marker, other] p s ↔ ∃ c rest,
      (stripPrefix? marker.toList s <|> stripPrefix? other.toList s) = some (c :: rest) ∧
        p c = true := by
  simp only [stripPrefix?_orElse_eq_some_iff h h', Announces]
  constructor
  · rintro ⟨m, hm, c, rest, hs, hc⟩
    exact ⟨c, rest, ⟨m, hm, hs⟩, hc⟩
  · rintro ⟨c, rest, ⟨m, hm, hs⟩, hc⟩
    exact ⟨m, hm, c, rest, hs, hc⟩

/-! ### Between separators -/

section

variable {sep : Char}

theorem splitAt_cons_self (sep : Char) (s : List Char) :
    splitAt sep (sep :: s) = [] :: splitAt sep s := by
  rw [splitAt, if_pos rfl]

theorem splitAt_cons_of_ne {c : Char} {p : List Char} {ps : List (List Char)} (hc : c ≠ sep)
    (h : splitAt sep s = p :: ps) : splitAt sep (c :: s) = (c :: p) :: ps := by
  rw [splitAt, if_neg hc, h]

theorem splitAt_eq_splitOn (sep : Char) (s : List Char) : splitAt sep s = s.splitOn sep := by
  induction s with
  | nil => rfl
  | cons c s ih =>
    rw [List.splitOn, List.splitOnP_cons_eq_if_modifyHead, ← List.splitOn, ← ih]
    by_cases hc : c = sep
    · subst hc
      rw [splitAt_cons_self, if_pos (beq_self_eq_true c)]
    · rw [if_neg (by simpa using hc)]
      cases h : splitAt sep s with
      | nil => exact absurd (ih.symm.trans h) (List.splitOn_ne_nil sep s)
      | cons p ps => exact splitAt_cons_of_ne hc h

theorem splitAt_ne_nil (sep : Char) (s : List Char) : splitAt sep s ≠ [] := by
  rw [splitAt_eq_splitOn]
  exact List.splitOn_ne_nil sep s

/-- A text is its pieces, put together again. -/
theorem splitAt_injective (sep : Char) : Function.Injective (splitAt sep) := by
  intro s t h
  rw [splitAt_eq_splitOn, splitAt_eq_splitOn] at h
  calc s = [sep].intercalate (s.splitOn sep) := (List.intercalate_splitOn sep).symm
    _ = [sep].intercalate (t.splitOn sep) := by rw [h]
    _ = t := List.intercalate_splitOn sep

theorem splitAt_append (s t : List Char) :
    splitAt sep (s ++ sep :: t) = splitAt sep s ++ splitAt sep t := by
  rw [splitAt_eq_splitOn, splitAt_eq_splitOn, splitAt_eq_splitOn]
  exact List.splitOnP_append_cons s t (beq_self_eq_true sep)

/-- The last pieces of a text are the pieces of all of it, or of what follows a separator. -/
theorem splitAt_isSuffix_iff :
    splitAt sep t <:+ splitAt sep s ↔ s = t ∨ sep :: t <:+ s := by
  constructor
  · intro h
    induction s with
    | nil =>
      left
      apply splitAt_injective sep
      refine (h.eq_of_length_le ?_).symm
      exact List.length_pos_of_ne_nil (splitAt_ne_nil sep t)
    | cons c s ih =>
      by_cases hc : c = sep
      · subst hc
        rw [splitAt_cons_self, List.suffix_cons_iff, ← splitAt_cons_self] at h
        rcases h with h | h
        · exact .inl (splitAt_injective c h).symm
        · rcases ih h with rfl | h
          · exact .inr (List.suffix_refl _)
          · exact .inr (h.trans (List.suffix_cons _ _))
      · obtain ⟨p, ps, hp⟩ := List.exists_cons_of_ne_nil (splitAt_ne_nil sep s)
        have hsplit := splitAt_cons_of_ne hc hp
        rw [hsplit, List.suffix_cons_iff, ← hsplit] at h
        rcases h with h | h
        · exact .inl (splitAt_injective sep h).symm
        · have hs : splitAt sep t <:+ splitAt sep s := hp ▸ h.trans (List.suffix_cons p ps)
          rcases ih hs with rfl | hs
          · -- the pieces of a text are not among those after its first one
            have hle := h.length_le
            rw [hp, List.length_cons] at hle
            omega
          · exact .inr (hs.trans (List.suffix_cons _ _))
  · rintro (rfl | ⟨u, rfl⟩)
    · exact List.suffix_refl _
    · rw [splitAt_append]
      exact List.suffix_append _ _

end

/-! ### Replacing -/

section

variable {old new : List Char}

theorem replaceFrom_eq (k : ℕ) (acc s : List Char) :
    replaceFrom old new k acc s = acc.reverse ++ replace old new (s.drop k) := by
  unfold replace
  induction s generalizing k acc with
  | nil => simp [replaceFrom]
  | cons c s ih =>
    cases k with
    | succ k => exact ih k acc
    | zero =>
      rw [List.drop_zero, replaceFrom, replaceFrom]
      split_ifs
      · rw [ih, ih _ (new.reverse ++ [])]
        simp
      · rw [ih, ih _ [c]]
        simp

theorem replace_append (hold : old ≠ []) (s : List Char) :
    replace old new (old ++ s) = new ++ replace old new s := by
  obtain ⟨c, old, rfl⟩ := List.exists_cons_of_ne_nil hold
  rw [replace, List.cons_append, replaceFrom, if_pos (by simp), replaceFrom_eq]
  simp

theorem replace_cons {c : Char} (h : ¬ old <+: c :: s) :
    replace old new (c :: s) = c :: replace old new s := by
  rw [replace, replaceFrom, if_neg (by simpa using h), replaceFrom_eq]
  rfl

theorem replace_ne_nil (hold : old ≠ []) (hnew : new ≠ []) (hs : s ≠ []) :
    replace old new s ≠ [] := by
  obtain ⟨c, s, rfl⟩ := List.exists_cons_of_ne_nil hs
  by_cases h : old <+: c :: s
  · obtain ⟨rest, hrest⟩ := h
    rw [← hrest, replace_append hold]
    exact List.append_ne_nil_of_left_ne_nil hnew _
  · rw [replace_cons h]
    exact List.cons_ne_nil _ _

end

end MediaRelay.Text
