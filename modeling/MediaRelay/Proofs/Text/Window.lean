import Mathlib.Data.List.TakeWhile
import MediaRelay.Proofs.Text.Chunk
/-! Where a text is cut. Each piece but the last fills a window of the text that is left, up to the
last line break of the window, or its last space, or its end. The pieces of a text are the only
list of this kind. -/

namespace MediaRelay

namespace Text

variable {limit : ℕ} {s w p : List Char}

/-- What of a text the next piece may fill: the longest prefix of at most `limit` bytes, or the
first character where it is wider. -/
inductive IsWindow (limit : ℕ) (s : List Char) : List Char → Prop
  | longest {w : List Char} (hne : w ≠ []) (hfront : w <+: s) (hfits : byteSize w ≤ limit)
      (hlongest : ∀ v, v <+: s → byteSize v ≤ limit → byteSize v ≤ byteSize w) :
      IsWindow limit s w
  | wide {c : Char} (hfront : [c] <+: s) (hwide : limit < c.utf8Size) : IsWindow limit s [c]

/-- How a window is cut: just after its last line break, or if it has none just after its last
space, or if it has neither at its end. -/
inductive IsCut (w p : List Char) : Prop
  | line {a b : List Char} (hw : w = a ++ '\n' :: b) (hlast : '\n' ∉ b) (hp : p = a ++ ['\n'])
  | word {a b : List Char} (hline : '\n' ∉ w) (hw : w = a ++ ' ' :: b) (hlast : ' ' ∉ b)
      (hp : p = a ++ [' '])
  | whole (hline : '\n' ∉ w) (hword : ' ' ∉ w) (hp : p = w)

/-! ### The cut of a window -/

theorem throughLast_append {mark : Char} (a : List Char) {b : List Char} (hlast : mark ∉ b) :
    throughLast mark (a ++ mark :: b) = some (a ++ [mark]) := by
  have hskip : ∀ c ∈ b.reverse, (c != mark) = true := by
    intro c hc
    rw [bne_iff_ne]
    rintro rfl
    exact hlast (List.mem_reverse.1 hc)
  have hrev : (a ++ mark :: b).reverse.dropWhile (· != mark) = mark :: a.reverse := by
    rw [List.reverse_append, List.reverse_cons, List.append_assoc,
      List.dropWhile_append_of_pos hskip]
    simp
  rw [throughLast, hrev]
  simp

theorem throughLast_of_not_mem {mark : Char} (h : mark ∉ w) : throughLast mark w = none := by
  have hskip : w.reverse.dropWhile (· != mark) = [] := by
    rw [List.dropWhile_eq_nil_iff]
    intro c hc
    rw [bne_iff_ne]
    rintro rfl
    exact h (List.mem_reverse.1 hc)
  rw [throughLast, hskip]

theorem IsCut.eq_cutWindow (h : IsCut w p) : p = cutWindow w := by
  unfold cutWindow
  cases h with
  | line hw hlast hp =>
    rw [hw, throughLast_append _ hlast, hp]
    rfl
  | word hline hw hlast hp =>
    rw [throughLast_of_not_mem hline, hw, throughLast_append _ hlast, hp]
    rfl
  | whole hline hword hp =>
    rw [throughLast_of_not_mem hline, throughLast_of_not_mem hword, hp]
    rfl

/-- A text splits at the last place where it has a mark. -/
theorem exists_last {mark : Char} (h : mark ∈ w) : ∃ a b, w = a ++ mark :: b ∧ mark ∉ b := by
  induction w with
  | nil => cases h
  | cons c w ih =>
    by_cases hw : mark ∈ w
    · obtain ⟨a, b, rfl, hlast⟩ := ih hw
      exact ⟨c :: a, b, rfl, hlast⟩
    · obtain rfl : mark = c := (List.mem_cons.1 h).resolve_right hw
      exact ⟨[], w, rfl, hw⟩

theorem isCut_cutWindow (w : List Char) : IsCut w (cutWindow w) := by
  have hcut : ∃ p, IsCut w p := by
    by_cases hline : '\n' ∈ w
    · obtain ⟨a, b, hw, hlast⟩ := exists_last hline
      exact ⟨_, .line hw hlast rfl⟩
    · by_cases hword : ' ' ∈ w
      · obtain ⟨a, b, hw, hlast⟩ := exists_last hword
        exact ⟨_, .word hline hw hlast rfl⟩
      · exact ⟨_, .whole hline hword rfl⟩
  obtain ⟨p, hp⟩ := hcut
  rwa [← hp.eq_cutWindow]

/-! ### The window of a text -/

theorem isPrefix_splitBytes {room : ℕ} {v : List Char} (hfront : v <+: s)
    (hfits : byteSize v ≤ room) : v <+: (splitBytes room s).1 := by
  induction s generalizing room v with
  | nil => exact hfront
  | cons c s ih =>
    cases v with
    | nil => exact List.nil_prefix
    | cons d v =>
      obtain ⟨rfl, hv⟩ := List.cons_prefix_cons.1 hfront
      simp only [byteSize] at hfits
      have hd : d.utf8Size ≤ room := by omega
      rw [splitBytes, if_pos hd]
      exact List.cons_prefix_cons.2 ⟨rfl, ih hv (by omega)⟩

theorem splitBytes_ne_nil_of_le {c : Char} {room : ℕ} (hfront : [c] <+: s)
    (hc : c.utf8Size ≤ room) : (splitBytes room s).1 ≠ [] := by
  have hfits : byteSize [c] ≤ room := by simpa [byteSize] using hc
  have hfront' := isPrefix_splitBytes hfront hfits
  intro hnil
  rw [hnil] at hfront'
  exact List.cons_ne_nil c [] (List.prefix_nil.1 hfront')

/-- A wide character is no place to break at. -/
theorem cutWindow_wide {c : Char} (hlimit : 1 ≤ limit) (hwide : limit < c.utf8Size) :
    cutWindow [c] = [c] := by
  have hne (mark : Char) (hmark : mark.utf8Size = 1) : mark ∉ [c] := by
    intro hmem
    obtain rfl := List.mem_singleton.1 hmem
    omega
  exact (IsCut.whole (hne '\n' rfl) (hne ' ' rfl) rfl).eq_cutWindow.symm

theorem IsWindow.firstPiece_eq (hlimit : 1 ≤ limit) (h : IsWindow limit s w) :
    firstPiece limit s = cutWindow w := by
  cases h with
  | longest hne hfront hfits hlongest =>
    -- two prefixes of a text, of which neither is shorter than the other
    have hsub := isPrefix_splitBytes hfront hfits
    obtain ⟨rest, hrest⟩ := hsub
    have hle := hlongest _ (splitBytes_isPrefix limit s) (byteSize_splitBytes_le limit s)
    have hnil : rest = [] := by
      rw [← hrest, byteSize_append] at hle
      have hlen := length_le_byteSize rest
      exact List.length_eq_zero_iff.1 (by omega)
    rw [hnil, List.append_nil] at hrest
    unfold firstPiece
    rw [← hrest]
    split
    · exact absurd rfl hne
    · rfl
  | @wide c hfront hwide =>
    obtain ⟨rest, rfl⟩ := hfront
    have hnone : (splitBytes limit ([c] ++ rest)).1 = [] := by
      rw [List.singleton_append, splitBytes, if_neg (Nat.not_le.2 hwide)]
    unfold firstPiece
    rw [hnone, cutWindow_wide hlimit hwide]
    rfl

theorem exists_isWindow (limit : ℕ) (hs : s ≠ []) : ∃ w, IsWindow limit s w := by
  obtain ⟨c, rest, rfl⟩ := List.exists_cons_of_ne_nil hs
  have hhead : [c] <+: c :: rest := List.prefix_append [c] rest
  by_cases hc : c.utf8Size ≤ limit
  · refine ⟨_, .longest (splitBytes_ne_nil_of_le hhead hc) (splitBytes_isPrefix limit _)
      (byteSize_splitBytes_le limit _) fun v hv hfits => ?_⟩
    exact byteSize_le_of_isPrefix (isPrefix_splitBytes hv hfits)
  · exact ⟨[c], .wide hhead (Nat.not_le.1 hc)⟩

/-- The first piece of a text is how its window is cut. -/
theorem eq_firstPiece_iff (hlimit : 1 ≤ limit) (hs : s ≠ []) :
    p = firstPiece limit s ↔ ∃ w, IsWindow limit s w ∧ IsCut w p := by
  constructor
  · rintro rfl
    obtain ⟨w, hw⟩ := exists_isWindow limit hs
    refine ⟨w, hw, ?_⟩
    rw [hw.firstPiece_eq hlimit]
    exact isCut_cutWindow w
  · rintro ⟨w, hw, hp⟩
    rw [hw.firstPiece_eq hlimit]
    exact hp.eq_cutWindow

/-! ### The pieces of a text -/

theorem ne_nil_of_mem_pieces (hp : p ∈ pieces limit s) : p ≠ [] := by
  fun_induction pieces limit s with
  | case1 => cases hp
  | case2 s hs _ =>
    obtain rfl := List.mem_singleton.1 hp
    exact hs
  | case3 s hs _ head ih =>
    rcases List.mem_cons.1 hp with rfl | hp
    · exact firstPiece_ne_nil limit hs
    · exact ih hp

/-- A piece that others follow is the first piece of what is left, which did not fit. -/
theorem of_pieces_eq_append {after : List (List Char)} (hafter : after ≠ []) :
    ∀ before, pieces limit s = before ++ p :: after →
      limit < byteSize (p :: after).flatten ∧ p = firstPiece limit (p :: after).flatten := by
  fun_induction pieces limit s with
  | case1 =>
    intro before h
    cases before <;> cases h
  | case2 s _ _ =>
    intro before h
    have hlen := congrArg List.length h
    have hpos := List.length_pos_of_ne_nil hafter
    simp only [List.length_append, List.length_cons, List.length_nil] at hlen
    omega
  | case3 s hs hmore head ih =>
    intro before h
    cases before with
    | nil =>
      have hs' : (p :: after).flatten = s := by
        rw [← List.nil_append (p :: after), ← h, List.flatten_cons, flatten_pieces]
        exact List.prefix_iff_eq_append.1 (firstPiece_isPrefix limit s)
      rw [hs']
      obtain ⟨rfl, -⟩ := List.cons_eq_cons.1 h
      exact ⟨Nat.not_le.1 fun hle => hmore (splitBytes_eq_nil_iff.2 hle), rfl⟩
    | cons q before =>
      obtain ⟨-, h⟩ := List.cons_eq_cons.1 h
      exact ih before h

/-- A text that does not fit is its first piece, followed by the pieces of what is left. -/
theorem pieces_append {rest : List Char} (hmore : limit < byteSize (p ++ rest))
    (hp : p = firstPiece limit (p ++ rest)) :
    pieces limit (p ++ rest) = p :: pieces limit rest := by
  have hs : p ++ rest ≠ [] := by
    intro hnil
    rw [hnil] at hmore
    exact Nat.not_lt_zero _ hmore
  rw [pieces, dif_neg hs, if_neg fun hnil => Nat.not_le.2 hmore (splitBytes_eq_nil_iff.1 hnil),
    ← hp]
  dsimp only
  rw [List.drop_left]

theorem split_of_ne_nil (limit : ℕ) (hs : s ≠ []) : split limit s = pieces (max limit 1) s := by
  cases s with
  | nil => exact absurd rfl hs
  | cons c s => rfl

/-- A piece of a text that others follow, with what is left of the text where it begins. -/
theorem of_split_eq_append {before after : List (List Char)}
    (h : split limit s = before ++ p :: after) (hafter : after ≠ []) :
    max limit 1 < byteSize (p :: after).flatten ∧
      p = firstPiece (max limit 1) (p :: after).flatten := by
  by_cases hs : s = []
  · subst hs
    have hlen := congrArg List.length h
    have hpos := List.length_pos_of_ne_nil hafter
    simp only [split, List.length_append, List.length_cons, List.length_nil] at hlen
    omega
  · rw [split_of_ne_nil limit hs] at h
    exact of_pieces_eq_append hafter before h

/-- A text that fits is not cut, where a limit of zero counts as one. -/
theorem split_of_le_max (h : byteSize s ≤ max limit 1) : split limit s = [s] := by
  cases s with
  | nil => rfl
  | cons c s =>
    rw [split_of_ne_nil limit (List.cons_ne_nil c s), pieces, dif_neg (List.cons_ne_nil c s),
      if_pos (splitBytes_eq_nil_iff.2 h)]

/-- A single character is not cut, however wide. -/
theorem split_singleton (limit : ℕ) (c : Char) : split limit [c] = [[c]] := by
  rcases Nat.lt_or_ge (max limit 1) (byteSize [c]) with hmore | hfits
  · have hwide : max limit 1 < c.utf8Size := by simpa [byteSize] using hmore
    have hfirst : [c] = firstPiece (max limit 1) ([c] ++ []) := by
      rw [List.append_nil, (IsWindow.wide (List.prefix_refl [c]) hwide).firstPiece_eq
        (Nat.le_max_right _ _), cutWindow_wide (Nat.le_max_right _ _) hwide]
    rw [split_of_ne_nil limit (List.cons_ne_nil c []), ← List.append_nil [c],
      pieces_append hmore hfirst, pieces, dif_pos rfl, List.append_nil]
  · exact split_of_le_max hfits

/-- A piece is not cut again. -/
theorem split_of_mem_split (hp : p ∈ split limit s) : split limit p = [p] := by
  rcases fits_of_mem_split hp with hfits | hone
  · exact split_of_le_max hfits
  · obtain ⟨c, rfl⟩ := List.length_eq_one_iff.1 hone
    exact split_singleton limit c

end Text

open Text (IsWindow IsCut)

structure IsSplit (limit : ℕ) (text : String) (pieces : List String) : Prop where
  join : String.join pieces = text
  of_empty : text = "" → pieces = [""]
  not_empty : text ≠ "" → "" ∉ pieces
  fits : ∀ p ∈ pieces, p.utf8ByteSize ≤ max limit 1 ∨
    ∃ c, p = String.singleton c ∧ max limit 1 < c.utf8Size
  /-- a piece that others follow, with what is left of the text where it begins -/
  cut : ∀ before p after, pieces = before ++ p :: after → after ≠ [] →
    max limit 1 < (String.join (p :: after)).utf8ByteSize ∧
      ∃ w, IsWindow (max limit 1) (String.join (p :: after)).toList w ∧ IsCut w p.toList
  again : ∀ p ∈ pieces, splitText p limit = [p]

theorem toList_join_cons (p : String) (after : List String) :
    (String.join (p :: after)).toList = p.toList ++ (String.join after).toList := by
  rw [String.toList_join, String.toList_join, List.flatMap_cons]

theorem Text.byteSize_toList (text : String) : byteSize text.toList = text.utf8ByteSize := by
  rw [byteSize_eq, String.ofList_toList]

theorem splitText_append {limit : ℕ} {p : String} {after : List String}
    (hmore : max limit 1 < (String.join (p :: after)).utf8ByteSize)
    (hp : p.toList = Text.firstPiece (max limit 1) (String.join (p :: after)).toList)
    (hrest : String.join after ≠ "") :
    splitText (String.join (p :: after)) limit = p :: splitText (String.join after) limit := by
  have hne : (String.join after).toList ≠ [] := by
    rwa [Ne, String.toList_eq_nil_iff]
  rw [← Text.byteSize_toList, toList_join_cons] at hmore
  rw [toList_join_cons] at hp
  rw [splitText, splitText, toList_join_cons, Text.split_of_ne_nil limit hne,
    Text.split_of_ne_nil limit (List.append_ne_nil_of_right_ne_nil _ hne),
    Text.pieces_append hmore hp, List.map_cons, String.ofList_toList]

theorem isSplit_splitText (text : String) (limit : ℕ) :
    IsSplit limit text (splitText text limit) where
  join := join_splitText text limit
  of_empty h := by
    subst h
    rfl
  not_empty h := by
    intro hmem
    obtain ⟨p, hp, hnil⟩ := List.mem_map.1 hmem
    rw [Text.split_of_ne_nil limit (mt String.toList_eq_nil_iff.1 h)] at hp
    exact Text.ne_nil_of_mem_pieces hp (String.ofList_eq_empty_iff.1 hnil)
  fits q hq := by
    obtain ⟨p, hp, rfl⟩ := List.mem_map.1 hq
    rw [← Text.byteSize_eq]
    rcases Text.fits_of_mem_split hp with hfits | hone
    · exact .inl hfits
    · obtain ⟨c, rfl⟩ := List.length_eq_one_iff.1 hone
      rcases Nat.lt_or_ge (max limit 1) c.utf8Size with hwide | hfits
      · exact .inr ⟨c, String.singleton_eq_ofList.symm, hwide⟩
      · exact .inl hfits
  cut before q after h hafter := by
    obtain ⟨before, rest, hsplit, rfl, hrest⟩ := List.map_eq_append_iff.1 h
    obtain ⟨p, after, rfl, rfl, rfl⟩ := List.map_eq_cons_iff.1 hrest
    obtain ⟨hmore, hp⟩ := Text.of_split_eq_append hsplit (by simpa using hafter)
    have hjoin : String.join (String.ofList p :: after.map String.ofList) =
        String.ofList (p :: after).flatten := by
      rw [← String.toList_inj, String.toList_join, ← List.map_cons, List.flatMap_map]
      simp [List.flatMap_def]
    rw [hjoin, String.toList_ofList, String.toList_ofList, ← Text.byteSize_eq]
    refine ⟨hmore, (Text.eq_firstPiece_iff (Nat.le_max_right _ _) ?_).1 hp⟩
    intro hnil
    rw [hnil] at hmore
    exact Nat.not_lt_zero _ hmore
  again q hq := by
    obtain ⟨p, hp, rfl⟩ := List.mem_map.1 hq
    rw [splitText, String.toList_ofList, Text.split_of_mem_split hp, List.map_singleton]

/-- What follows the first piece are the pieces of what is left. -/
theorem IsSplit.tail {limit : ℕ} {text p : String} {after : List String}
    (h : IsSplit limit text (p :: after)) (hafter : after ≠ []) :
    String.join after ≠ "" ∧ IsSplit limit (String.join after) after := by
  have htext : text ≠ "" := by
    rintro rfl
    obtain ⟨-, hnil⟩ := List.cons_eq_cons.1 (h.of_empty rfl)
    exact hafter hnil
  have hempty : "" ∉ after := fun hmem => h.not_empty htext (List.mem_cons_of_mem p hmem)
  have hrest : String.join after ≠ "" := by
    obtain ⟨q, after, rfl⟩ := List.exists_cons_of_ne_nil hafter
    rw [Ne, ← String.toList_eq_nil_iff, toList_join_cons, List.append_eq_nil_iff]
    rintro ⟨hq, -⟩
    rw [String.toList_eq_nil_iff] at hq
    exact hempty (hq ▸ List.mem_cons_self)
  exact ⟨hrest,
    { join := rfl
      of_empty := fun hnil => absurd hnil hrest
      not_empty := fun _ => hempty
      fits := fun q hq => h.fits q (List.mem_cons_of_mem p hq)
      cut := fun before q rest hsplit hne => h.cut (p :: before) q rest (by rw [hsplit]; rfl) hne
      again := fun q hq => h.again q (List.mem_cons_of_mem p hq) }⟩

/-- No other list of texts is one of pieces. -/
theorem IsSplit.eq_splitText {limit : ℕ} {text : String} {pieces : List String}
    (h : IsSplit limit text pieces) : pieces = splitText text limit := by
  induction pieces generalizing text with
  | nil =>
    have htext : text = "" := h.join.symm
    exact absurd (h.of_empty htext) (List.cons_ne_nil "" []).symm
  | cons p after ih =>
    by_cases hafter : after = []
    · subst hafter
      have htext : text = p := by
        rw [← h.join, ← String.toList_inj, toList_join_cons, String.toList_join, List.flatMap_nil,
          List.append_nil]
      rw [htext, h.again p List.mem_cons_self]
    · obtain ⟨hrest, htail⟩ := h.tail hafter
      obtain ⟨hmore, hcut⟩ := h.cut [] p after rfl hafter
      have hne : (String.join (p :: after)).toList ≠ [] := by
        intro hnil
        rw [← Text.byteSize_toList, hnil] at hmore
        exact Nat.not_lt_zero _ hmore
      have hp := (Text.eq_firstPiece_iff (Nat.le_max_right limit 1) hne).2 hcut
      rw [← h.join, splitText_append hmore hp hrest, ← ih htail]

/-- Texts are cut as they should be, and in no other way. -/
theorem isSplit_iff_eq_splitText (text : String) (limit : ℕ) (pieces : List String) :
    IsSplit limit text pieces ↔ pieces = splitText text limit := by
  constructor
  · exact IsSplit.eq_splitText
  · rintro rfl
    exact isSplit_splitText text limit

/-- A break at the very end of a window counts, and a character that is wider than the limit goes
on its own. -/
example : splitText "ab\ncé" 3 = ["ab\n", "cé"] ∧ splitText "aé" 1 = ["a", "é"] := by decide +kernel

end MediaRelay
