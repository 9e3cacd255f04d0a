import Mathlib.Data.List.DropRight
import MediaRelay.Text.Blank
/-! The words of a text. Blanks around a text are not seen in its words, a text that begins with a
word goes on with the words of what is left, and no text has fewer words than its own end. -/

namespace MediaRelay.Text

variable {s t : List Char} {c : Char}

theorem words_eq_nil (h : trimStart s = []) : words s = [] := by
  rw [words]
  split
  · rfl
  · next hcons => cases h.symm.trans hcons

theorem words_eq_cons (h : trimStart s = c :: t) :
    words s = (c :: t.takeWhile (!isBlank ·)) :: words (t.dropWhile (!isBlank ·)) := by
  rw [words]
  split
  · next hnil => cases hnil.symm.trans h
  · next hcons =>
    obtain ⟨rfl, rfl⟩ := List.cons.inj (hcons.symm.trans h)
    rfl

theorem ne_nil_of_words_eq_cons {first : List Char} {later : List (List Char)}
    (h : words s = first :: later) : first ≠ [] := by
  cases hstart : trimStart s with
  | nil =>
    rw [words_eq_nil hstart] at h
    cases h
  | cons c t =>
    rw [words_eq_cons hstart] at h
    exact (List.cons.inj h).1 ▸ List.cons_ne_nil _ _

theorem words_cons_of_isBlank (hc : isBlank c = true) (s : List Char) :
    words (c :: s) = words s := by
  have hstart : trimStart (c :: s) = trimStart s := List.dropWhile_cons_of_pos hc
  cases h : trimStart s with
  | nil => rw [words_eq_nil h, words_eq_nil (hstart.trans h)]
  | cons d t => rw [words_eq_cons h, words_eq_cons (hstart.trans h)]

theorem words_cons_of_not_isBlank (hc : isBlank c = false) (s : List Char) :
    words (c :: s) = (c :: s.takeWhile (!isBlank ·)) :: words (s.dropWhile (!isBlank ·)) :=
  words_eq_cons (List.dropWhile_cons_of_neg (by simp [hc]))

theorem not_isBlank_of_trimStart (h : trimStart s = c :: t) : isBlank c = false := by
  have hc := List.head?_dropWhile_not isBlank s
  rw [← trimStart, h] at hc
  simpa using hc

/-- A text that begins with characters of a word. -/
theorem words_append (hne : s ≠ []) (hs : ∀ c ∈ s, isBlank c = false) (t : List Char) :
    words (s ++ t) = (s ++ t.takeWhile (!isBlank ·)) :: words (t.dropWhile (!isBlank ·)) := by
  obtain ⟨c, s, rfl⟩ := List.exists_cons_of_ne_nil hne
  obtain ⟨hc, hs⟩ := List.forall_mem_cons.1 hs
  have hs' : ∀ c ∈ s, (!isBlank c) = true := fun c hmem => by rw [hs c hmem]; rfl
  rw [List.cons_append, words_cons_of_not_isBlank hc, List.takeWhile_append_of_pos hs',
    List.dropWhile_append_of_pos hs', List.cons_append]

/-- A first word that stands alone, or has a blank after it. -/
theorem words_append_dropWhile (hne : s ≠ []) (hs : ∀ c ∈ s, isBlank c = false) (t : List Char) :
    words (s ++ t.dropWhile (!isBlank ·)) = s :: words (t.dropWhile (!isBlank ·)) := by
  have hstops : (t.dropWhile (!isBlank ·)).takeWhile (!isBlank ·) = [] :=
    List.takeWhile_eq_nil_iff.2 (List.dropWhile_get_zero_not _ _)
  rw [words_append hne hs, hstops, List.append_nil, List.dropWhile_idempotent]

/-- A text has at most one word more than what follows its first one. -/
theorem length_words_le_dropWhile (s : List Char) :
    (words s).length ≤ (words (s.dropWhile (!isBlank ·))).length + 1 := by
  cases s with
  | nil => exact Nat.le_succ _
  | cons c s =>
    cases hc : isBlank c with
    | true =>
      rw [List.dropWhile_cons_of_neg (by simp [hc])]
      exact Nat.le_succ _
    | false =>
      rw [words_cons_of_not_isBlank hc, List.dropWhile_cons_of_pos (by simp [hc])]
      exact Nat.le_refl _

/-- What stands before a text, be it a part of its first word, takes no word away. -/
theorem length_words_le_append (s t : List Char) : (words t).length ≤ (words (s ++ t)).length := by
  induction s with
  | nil => exact Nat.le_refl _
  | cons c s ih =>
    refine ih.trans ?_
    rw [List.cons_append]
    cases hc : isBlank c with
    | true => rw [words_cons_of_isBlank hc]
    | false =>
      rw [words_cons_of_not_isBlank hc]
      exact length_words_le_dropWhile (s ++ t)

/-! ### Blanks around a text -/

section

variable (ht : ∀ c ∈ t, isBlank c = true)
include ht

theorem takeWhile_append_blanks (s : List Char) :
    (s ++ t).takeWhile (!isBlank ·) = s.takeWhile (!isBlank ·) := by
  induction s with
  | nil =>
    cases t with
    | nil => rfl
    | cons c t => simp [ht c List.mem_cons_self]
  | cons c s ih => simp only [List.cons_append, List.takeWhile_cons, ih]

theorem dropWhile_append_blanks (s : List Char) :
    (s ++ t).dropWhile (!isBlank ·) = s.dropWhile (!isBlank ·) ++ t := by
  induction s with
  | nil =>
    cases t with
    | nil => rfl
    | cons c t => simp [ht c List.mem_cons_self]
  | cons c s ih =>
    simp only [List.cons_append, List.dropWhile_cons, ih]
    split_ifs <;> rfl

theorem words_append_blanks (s : List Char) : words (s ++ t) = words s := by
  fun_induction words s with
  | case1 s h =>
    refine words_eq_nil (List.dropWhile_eq_nil_iff.2 fun c hc => ?_)
    rcases List.mem_append.1 hc with hc | hc
    · exact List.dropWhile_eq_nil_iff.1 h c hc
    · exact ht c hc
  | case2 s c rest h ih =>
    have hstart : trimStart (s ++ t) = c :: (rest ++ t) := by
      rw [trimStart, List.dropWhile_append, ← trimStart, h]
      rfl
    rw [words_eq_cons hstart, takeWhile_append_blanks ht, dropWhile_append_blanks ht, ih]

end

theorem words_trimStart (s : List Char) : words (trimStart s) = words s := by
  induction s with
  | nil => rfl
  | cons c s ih =>
    cases hc : isBlank c with
    | true => rw [words_cons_of_isBlank hc, ← ih, trimStart, List.dropWhile_cons_of_pos hc]; rfl
    | false => rw [trimStart, List.dropWhile_cons_of_neg (by simp [hc])]

theorem words_trimEnd (s : List Char) : words (trimEnd s) = words s := by
  conv_rhs => rw [← @List.rdropWhile_append_rtakeWhile _ isBlank s]
  exact (words_append_blanks (fun c => List.mem_rtakeWhile_imp) _).symm

theorem words_trim (s : List Char) : words (trim s) = words s := by
  rw [trim, words_trimEnd, words_trimStart]

/-- What was trimmed begins with no blank. -/
theorem trimStart_trim (s : List Char) : trimStart (trim s) = trim s := by
  cases h : trim s with
  | nil => rfl
  | cons c t =>
    obtain ⟨u, hu⟩ : c :: t <+: trimStart s := h ▸ List.rdropWhile_prefix isBlank (trimStart s)
    exact List.dropWhile_cons_of_neg (by simp [not_isBlank_of_trimStart hu.symm])

theorem trim_trim (s : List Char) : trim (trim s) = trim s := by
  rw [trim, trimStart_trim]
  exact List.rdropWhile_idempotent isBlank (trimStart s)

theorem trim_isInfix (s : List Char) : trim s <:+: s :=
  (List.rdropWhile_prefix isBlank (trimStart s)).isInfix.trans
    (List.dropWhile_suffix isBlank).isInfix

theorem words_eq_nil_iff : words s = [] ↔ trim s = [] := by
  rw [← words_trim]
  constructor
  · intro h
    cases hs : trim s with
    | nil => rfl
    | cons c t =>
      rw [words_eq_cons ((trimStart_trim s).trans hs)] at h
      cases h
  · intro h
    rw [h]
    exact words_eq_nil rfl

/-- The first word of a text, and what comes after it. -/
theorem words_eq_first (h : words s ≠ []) :
    words s = (trim s).takeWhile (!isBlank ·) :: words ((trim s).dropWhile (!isBlank ·)) := by
  rw [← words_trim]
  cases hs : trim s with
  | nil => exact absurd (words_eq_nil_iff.2 hs) h
  | cons c t =>
    have hstart : trimStart (c :: t) = c :: t := by rw [← hs, trimStart_trim]
    have hc := not_isBlank_of_trimStart hstart
    rw [words_cons_of_not_isBlank hc, List.takeWhile_cons_of_pos (by simp [hc]),
      List.dropWhile_cons_of_pos (by simp [hc])]

/-- A text with a marker in front. The words behind its first one are those behind the first word
after the marker where the marker goes together with that word; elsewhere the marker reaches beyond
the first word, and there is one more word before them. -/
theorem tail_words_eq_iff {marker rest first : List Char} {later : List (List Char)}
    (hs : trim s = marker ++ rest) (hrest : words rest = first :: later) :
    (words s).tail = later ↔ (words s).head? = some (marker ++ first) := by
  have hfirst : first ≠ [] := ne_nil_of_words_eq_cons hrest
  have hne : words s ≠ [] := by
    intro h
    rw [words_eq_nil_iff.1 h] at hs
    rw [(List.append_eq_nil_iff.1 hs.symm).2, words_eq_nil rfl] at hrest
    cases hrest
  have hsplit := (List.takeWhile_append_dropWhile (p := (!isBlank ·)) (l := trim s)).trans hs
  rw [words_eq_first hne, List.tail_cons, List.head?_cons, Option.some_inj]
  have hword : ∀ c ∈ (trim s).takeWhile (!isBlank ·), isBlank c = false := fun c hc => by
    simpa using List.mem_takeWhile_imp hc
  have hbeyond : ∀ extra, marker = (trim s).takeWhile (!isBlank ·) ++ extra →
      (trim s).dropWhile (!isBlank ·) = extra ++ rest →
      (words ((trim s).dropWhile (!isBlank ·)) = later ↔
        (trim s).takeWhile (!isBlank ·) = marker ++ first) := by
    intro extra hmarker hleft
    refine iff_of_false (fun h => ?_) fun h => ?_
    · have hle := length_words_le_append extra rest
      rw [← hleft, h, hrest, List.length_cons] at hle
      omega
    · have hlength := congrArg List.length h
      rw [hmarker, List.length_append, List.length_append] at hlength
      have := List.length_pos_of_ne_nil hfirst
      omega
  rcases List.append_eq_append_iff.1 hsplit with ⟨extra, hmarker, hleft⟩ | ⟨part, hpart, hleft⟩
  · exact hbeyond extra hmarker hleft
  · by_cases hnil : part = []
    · subst hnil
      exact hbeyond [] (by rw [hpart]; simp) (by rw [hleft]; rfl)
    · -- the marker ends within the first word, and what is left of that is the word after it
      rw [hleft, words_append_dropWhile hnil fun c hc =>
        hword c (hpart ▸ List.mem_append_right _ hc)] at hrest
      obtain ⟨rfl, rfl⟩ := List.cons.inj hrest
      exact iff_of_true rfl hpart

end MediaRelay.Text
