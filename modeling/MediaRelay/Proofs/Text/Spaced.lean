import MediaRelay.Proofs.List
import MediaRelay.Proofs.Text.Words
/-! Words with blanks between them. The words of a text follow one another in it, each after a
blank or more, and no other words do. A marker in front of the words is left as it is when the
blanks around the text are dropped, as long as it begins with none itself. -/

namespace MediaRelay.Text

def IsGap (s : List Char) : Prop := ∀ c ∈ s, isBlank c = true

structure IsWord (s : List Char) : Prop where
  ne_nil : s ≠ []
  not_blank : ∀ c ∈ s, isBlank c = false

inductive Follows : List (List Char) → List Char → Prop where
  | nil {gap : List Char} : IsGap gap → Follows [] gap
  | cons {gap word rest : List Char} {later : List (List Char)} : IsGap gap → gap ≠ [] →
      IsWord word → Follows later rest → Follows (word :: later) (gap ++ (word ++ rest))

variable {s t word : List Char} {later : List (List Char)}

/-! ### Blanks in front -/

theorem IsGap.append (hs : IsGap s) (ht : IsGap t) : IsGap (s ++ t) := fun c hc =>
  (List.mem_append.1 hc).elim (hs c) (ht c)

theorem trimStart_gap_append (hs : IsGap s) (t : List Char) :
    trimStart (s ++ t) = trimStart t := by
  rw [trimStart, List.dropWhile_append_of_pos hs, trimStart]

theorem exists_eq_gap_append_trimStart (s : List Char) :
    ∃ gap, IsGap gap ∧ s = gap ++ trimStart s :=
  ⟨s.takeWhile isBlank, fun _ hc => List.mem_takeWhile_imp hc,
    (List.takeWhile_append_dropWhile (p := isBlank)).symm⟩

theorem trimStart_eq_cons_iff {c : Char} (hc : isBlank c = false) :
    trimStart s = c :: t ↔ ∃ gap, IsGap gap ∧ s = gap ++ c :: t := by
  constructor
  · intro h
    rw [← h]
    exact exists_eq_gap_append_trimStart s
  · rintro ⟨gap, hgap, rfl⟩
    rw [trimStart_gap_append hgap]
    exact List.dropWhile_cons_of_neg (by simp [hc])

/-! ### Words in order -/

/-- What follows a word begins with a blank, or is the end. -/
theorem Follows.head?_isBlank (h : Follows later s) : ∀ c ∈ s.head?, isBlank c = true := by
  cases h with
  | nil hgap => exact fun c hc => hgap c (List.mem_of_head? hc)
  | cons hgap hne _ _ =>
    obtain ⟨d, gap, rfl⟩ := List.exists_cons_of_ne_nil hne
    simpa using hgap d List.mem_cons_self

theorem Follows.append (h : Follows later s) (ht : IsGap t) : Follows later (s ++ t) := by
  induction h with
  | nil hgap => exact .nil (hgap.append ht)
  | cons hgap hne hword _ ih =>
    rw [List.append_assoc, List.append_assoc]
    exact .cons hgap hne hword ih

theorem words_gap_append (hs : IsGap s) (t : List Char) : words (s ++ t) = words t := by
  rw [← words_trimStart, trimStart_gap_append hs, words_trimStart]

theorem words_word_append (hw : IsWord word) (ht : ∀ c ∈ t.head?, isBlank c = true) :
    words (word ++ t) = word :: words t := by
  have hstops := takeWhile_of_head? (p := (!isBlank ·)) fun c hc => by rw [ht c hc]; rfl
  rw [words_append hw.ne_nil hw.not_blank, hstops.1, hstops.2, List.append_nil]

theorem Follows.words_eq (h : Follows later s) : words s = later := by
  induction h with
  | nil hgap => exact words_eq_nil (List.dropWhile_eq_nil_iff.2 hgap)
  | cons hgap _ hword hrest ih =>
    rw [words_gap_append hgap, words_word_append hword hrest.head?_isBlank, ih]

theorem words_eq_nil_iff_isGap : words s = [] ↔ IsGap s := by
  constructor
  · intro h
    cases hstart : trimStart s with
    | nil => exact List.dropWhile_eq_nil_iff.1 hstart
    | cons c t =>
      rw [words_eq_cons hstart] at h
      cases h
  · intro h
    exact words_eq_nil (List.dropWhile_eq_nil_iff.2 h)

/-- A text with a word in it, up to the end of its first one. -/
theorem exists_of_words_eq_cons (h : words s = word :: later) :
    ∃ gap rest, IsGap gap ∧ IsWord word ∧ s = gap ++ (word ++ rest) ∧ words rest = later ∧
      ∀ c ∈ rest.head?, isBlank c = true := by
  cases hstart : trimStart s with
  | nil =>
    rw [words_eq_nil hstart] at h
    cases h
  | cons c t =>
    rw [words_eq_cons hstart] at h
    obtain ⟨rfl, hlater⟩ := List.cons.inj h
    obtain ⟨gap, hgap, hs⟩ := exists_eq_gap_append_trimStart s
    refine ⟨gap, t.dropWhile (!isBlank ·), hgap, ⟨List.cons_ne_nil _ _, ?_⟩, ?_, hlater, ?_⟩
    · intro d hd
      rcases List.mem_cons.1 hd with rfl | hd
      · exact not_isBlank_of_trimStart hstart
      · simpa using List.mem_takeWhile_imp hd
    · rw [List.cons_append, List.takeWhile_append_dropWhile, ← hstart]
      exact hs
    · intro d hd
      simpa using not_of_mem_head?_dropWhile hd

/-- The words of a text follow one another in it, as long as none stands at its very start. -/
theorem follows_words (hs : ∀ c ∈ s.head?, isBlank c = true) : Follows (words s) s := by
  induction hwords : words s generalizing s with
  | nil => exact .nil (words_eq_nil_iff_isGap.1 hwords)
  | cons word later ih =>
    obtain ⟨gap, rest, hgap, hword, rfl, hrest, hstops⟩ := exists_of_words_eq_cons hwords
    refine .cons hgap ?_ hword (ih hstops hrest)
    -- a word at the very start would begin the text with a character that is no blank
    rintro rfl
    obtain ⟨c, word, rfl⟩ := List.exists_cons_of_ne_nil hword.ne_nil
    have hblank := hs c rfl
    rw [hword.not_blank c List.mem_cons_self] at hblank
    cases hblank

theorem words_eq_cons_iff : words s = word :: later ↔
    ∃ gap rest, IsGap gap ∧ IsWord word ∧ Follows later rest ∧ s = gap ++ (word ++ rest) := by
  constructor
  · intro h
    obtain ⟨gap, rest, hgap, hword, hs, rfl, hstops⟩ := exists_of_words_eq_cons h
    exact ⟨gap, rest, hgap, hword, follows_words hstops, hs⟩
  · rintro ⟨gap, rest, hgap, hword, hrest, rfl⟩
    rw [words_gap_append hgap, words_word_append hword hrest.head?_isBlank, hrest.words_eq]

/-! ### A marker in front -/

def startsBlank (s : List Char) : Bool := s.head?.any isBlank

theorem trimEnd_append (ht : ¬ IsGap t) (s : List Char) : trimEnd (s ++ t) = s ++ trimEnd t := by
  have hleft : (t.reverse.dropWhile isBlank).isEmpty = false := by
    rw [List.isEmpty_eq_false_iff]
    intro h
    exact ht fun c hc => List.dropWhile_eq_nil_iff.1 h c (List.mem_reverse.2 hc)
  rw [trimEnd, List.reverse_append, List.dropWhile_append, hleft]
  simp [trimEnd]

/-- Dropping the blanks around a text leaves a marker in it as it is, and the words behind it. -/
theorem exists_trim_eq {gap marker : List Char} (hgap : IsGap gap)
    (hmarker : startsBlank marker = false) (hs : words s ≠ []) :
    ∃ rest, trim (gap ++ (marker ++ s)) = marker ++ rest ∧ words rest = words s := by
  rw [trim, trimStart_gap_append hgap]
  cases marker with
  | nil => exact ⟨trim s, rfl, words_trim s⟩
  | cons c marker =>
    have hc : isBlank c = false := hmarker
    refine ⟨trimEnd s, ?_, words_trimEnd s⟩
    rw [List.cons_append, trimStart, List.dropWhile_cons_of_neg (by simp [hc]), ← List.cons_append,
      trimEnd_append (mt words_eq_nil_iff_isGap.2 hs)]

/-- Without the blanks around it, no text begins with a marker that begins with a blank. -/
theorem startsBlank_of_trim_eq {marker rest : List Char} (h : trim s = marker ++ rest) :
    startsBlank marker = false := by
  cases marker with
  | nil => rfl
  | cons c marker =>
    have htrim := trimStart_trim s
    rw [h, List.cons_append] at htrim
    exact not_isBlank_of_trimStart htrim

theorem exists_eq_gap_append_trim (s : List Char) :
    ∃ gap blanks, IsGap gap ∧ IsGap blanks ∧ s = gap ++ (trim s ++ blanks) := by
  obtain ⟨gap, hgap, hs⟩ := exists_eq_gap_append_trimStart s
  refine ⟨gap, (trimStart s).rtakeWhile isBlank, hgap, fun c hc => List.mem_rtakeWhile_imp hc, ?_⟩
  rw [trim, trimEnd, ← List.rdropWhile, List.rdropWhile_append_rtakeWhile, ← hs]

/-- Blanks are dropped behind a text that has none. -/
theorem trim_append (hne : s ≠ []) (hs : ∀ c ∈ s, isBlank c = false) (t : List Char) :
    trim (s ++ t) = s ++ trimEnd t := by
  have hstart : trimStart (s ++ t) = s ++ t := by
    obtain ⟨c, cs, rfl⟩ := List.exists_cons_of_ne_nil hne
    exact List.dropWhile_cons_of_neg (by simp [hs c (.head _)])
  rw [trim, hstart]
  exact rdropWhile_append_of_forall t hs

/-- A text is a word with blanks around it. -/
theorem trim_eq_word_iff (hword : IsWord word) :
    trim s = word ↔ ∃ gap blanks, IsGap gap ∧ IsGap blanks ∧ s = gap ++ (word ++ blanks) := by
  constructor
  · rintro rfl
    exact exists_eq_gap_append_trim s
  · rintro ⟨gap, blanks, hgap, hblanks, rfl⟩
    have hend : trimEnd blanks = [] := List.rdropWhile_eq_nil_iff.2 hblanks
    have htrim := trim_append hword.ne_nil hword.not_blank blanks
    rw [hend, List.append_nil] at htrim
    rw [trim, trimStart_gap_append hgap]
    exact htrim

end MediaRelay.Text
