import MediaRelay.Proofs.Web.Url
/-! The path of a link: the segments between its slashes, where each of them stands for itself. What
follows a question mark or a number sign is no part of it. -/

namespace MediaRelay.Web

theorem Percent.encode_eq_self {inSet : Char → Bool} {s : List Char}
    (h : ∀ c ∈ s, inSet c = false) : encode inSet s = s := by
  induction s with
  | nil => rfl
  | cons c s ih =>
    obtain ⟨hc, hs⟩ := List.forall_mem_cons.1 h
    rw [encode, List.flatMap_cons, encodeChar, hc]
    exact congrArg (c :: ·) (ih hs)

namespace Url

structure IsSegment (s : List Char) : Prop where
  plain : ∀ c ∈ s, Percent.inPath c = false ∧ isSlash true c = false
  isDot_eq : isDot s = false
  isDotDot_eq : isDotDot s = false

def pathOf (segments : List (List Char)) : List Char := segments.flatMap ('/' :: ·)

def IsExtra (t : List Char) : Prop := ∀ c ∈ t.head?, c = '?' ∨ c = '#'

variable {s t scheme : List Char} {segments : List (List Char)}

theorem IsExtra.cleanTail (h : IsExtra t) : IsExtra (cleanTail t) := by
  have hkept : ∀ c ∈ t.head?, isDropped c = false := by
    intro c hc
    rcases h c hc with rfl | rfl <;> decide
  intro c hc
  exact h c (mem_head?_of_cleanTail hkept hc)

/-! ### Characters of a path -/

section

variable {c : Char}

theorem isEdge_of_inPath (h : Percent.inPath c = false) : isEdge c = false := by
  simp only [Percent.inPath, Percent.inFragment, Percent.inControls, Bool.or_eq_false_iff,
    decide_eq_false_iff_not] at h
  obtain ⟨⟨⟨hlow, -⟩, hmarks⟩, -⟩ := h
  apply decide_eq_false
  intro hle
  have hblank : c = ' ' := by
    rw [← Char.ofNat_toNat c, show c.toNat = 0x20 by omega]
  subst hblank
  cases hmarks

theorem ne_mark_of_inPath (h : Percent.inPath c = false) : c ≠ '?' ∧ c ≠ '#' := by
  constructor <;> (rintro rfl; cases h)

theorem inPath_of_mem_pathOf (h : ∀ s ∈ segments, IsSegment s) (hc : c ∈ pathOf segments) :
    Percent.inPath c = false := by
  obtain ⟨s, hs, hc⟩ := List.mem_flatMap.1 hc
  rcases List.mem_cons.1 hc with rfl | hc
  · rfl
  · exact ((h s hs).plain c hc).1

end

/-! ### Splitting a path -/

theorem splitMark_fst (mark : Char) (s : List Char) :
    (splitMark mark s).1 = s.takeWhile (· ≠ mark) := by
  unfold splitMark
  split
  · next hdrop =>
    have hsplit := List.takeWhile_append_dropWhile (p := (· ≠ mark)) (l := s)
    rw [hdrop, List.append_nil] at hsplit
    exact hsplit.symm
  · rfl

theorem splitTail_fst (s : List Char) :
    (splitTail s).1 = (s.takeWhile (· ≠ '#')).takeWhile (· ≠ '?') := by
  rw [← splitMark_fst '#', ← splitMark_fst '?']
  rfl

/-- A path ends where something may follow it. -/
theorem splitTail_append (hs : ∀ c ∈ s, c ≠ '?' ∧ c ≠ '#') (ht : IsExtra t) :
    (splitTail (s ++ t)).1 = s := by
  have hnumber : ∀ c ∈ s, decide (c ≠ '#') = true := by
    intro c hc
    simp [hs c hc]
  have hquestion : ∀ c ∈ s, decide (c ≠ '?') = true := by
    intro c hc
    simp [hs c hc]
  rw [splitTail_fst, List.takeWhile_append_of_pos hnumber, List.takeWhile_append_of_pos hquestion]
  cases t with
  | nil => simp
  | cons c t => rcases ht c rfl with rfl | rfl <;> simp

theorem splitPath_append {rest : List (List Char)} (hs : ∀ c ∈ s, isSlash true c = false)
    (ht : splitPath true t = [] :: rest) : splitPath true (s ++ t) = s :: rest := by
  induction s with
  | nil => exact ht
  | cons c s ih =>
    obtain ⟨hc, hs⟩ := List.forall_mem_cons.1 hs
    rw [List.cons_append, splitPath, hc, ih hs]
    rfl

theorem splitPath_pathOf (hs : ∀ c ∈ s, isSlash true c = false)
    (h : ∀ s ∈ segments, ∀ c ∈ s, isSlash true c = false) :
    splitPath true (s ++ pathOf segments) = s :: segments := by
  induction segments generalizing s with
  | nil => exact splitPath_append hs rfl
  | cons next segments ih =>
    obtain ⟨hnext, h⟩ := List.forall_mem_cons.1 h
    apply splitPath_append hs
    -- The slash before the next segment closes an empty one.
    exact congrArg ([] :: ·) (ih hnext h)

theorem walk_segments (hscheme : scheme ≠ fileScheme) (h : ∀ s ∈ segments, IsSegment s)
    (path : List (List Char)) : walk scheme path segments = path ++ segments := by
  induction segments generalizing path with
  | nil => exact (List.append_nil path).symm
  | cons s segments ih =>
    obtain ⟨hs, h⟩ := List.forall_mem_cons.1 h
    have hencode : Percent.encode Percent.inPath s = s := by
      apply Percent.encode_eq_self
      intro c hc
      exact (hs.plain c hc).1
    simp only [walk, hs.isDotDot_eq, hs.isDot_eq, hscheme, hencode, decide_false, Bool.false_and,
      Bool.false_eq_true, if_false]
    rw [ih h, List.append_assoc]
    rfl

theorem absolutePath_pathOf (hspecial : isSpecial scheme = true) (hscheme : scheme ≠ fileScheme)
    (hne : segments ≠ []) (h : ∀ s ∈ segments, IsSegment s) :
    absolutePath scheme (pathOf segments) = .segments segments := by
  obtain ⟨s, segments, rfl⟩ := List.exists_cons_of_ne_nil hne
  obtain ⟨hs, hrest⟩ := List.forall_mem_cons.1 h
  have hsplit : splitPath true (s ++ pathOf segments) = s :: segments := by
    apply splitPath_pathOf
    · intro c hc
      exact (hs.plain c hc).2
    · intro s hs c hc
      exact ((hrest s hs).plain c hc).2
  have hslash : isSlash true '/' = true := rfl
  change absolutePath scheme ('/' :: (s ++ pathOf segments)) = _
  simp only [absolutePath, hspecial]
  rw [if_pos hslash, hsplit, walk_segments hscheme h, fileSegments, if_neg hscheme]
  rfl

/-- The segments of a link are those that it is written with. -/
theorem segments?_parse_link {a : List Char} {u : Url}
    (hscheme : scheme = "http".toList ∨ scheme = "https".toList) (ha : IsAuthority a)
    (hu : parseAuthority scheme a = some u) (hsame : u.scheme = scheme) (hne : segments ≠ [])
    (h : ∀ s ∈ segments, IsSegment s) (ht : IsExtra t) :
    (parse (scheme ++ "://".toList ++ a ++ (pathOf segments ++ t))).bind (·.segments?) =
      some segments := by
  have hclean : cleanTail (pathOf segments ++ t) = pathOf segments ++ cleanTail t := by
    apply cleanTail_append
    intro c hc
    exact isEdge_of_inPath (inPath_of_mem_pathOf h hc)
  have hsplit : (splitTail (pathOf segments ++ cleanTail t)).1 = pathOf segments := by
    apply splitTail_append _ ht.cleanTail
    intro c hc
    exact ne_mark_of_inPath (inPath_of_mem_pathOf h hc)
  have htail : IsTail (pathOf segments ++ t) := by
    obtain ⟨s, segments, rfl⟩ := List.exists_cons_of_ne_nil hne
    exact isTail_cons.2 (.inl rfl)
  have hspecial : isSpecial scheme = true := by rcases hscheme with rfl | rfl <;> decide
  have hfile : scheme ≠ fileScheme := by rcases hscheme with rfl | rfl <;> decide
  rw [parse_link hscheme ha htail, hu, hclean]
  simp only [Option.map_some, Option.bind_some, segments?, withTail, hsplit, hsame]
  rw [absolutePath_pathOf hspecial hfile hne h]
  simp [hne]

end Url
end MediaRelay.Web
