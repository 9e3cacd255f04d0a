import Mathlib.Data.List.Basic
import MediaRelay.Text.Chunk
/-! The pieces of a text: together they are the text, none is larger than the limit unless it is a
single character, and a text that fits is its own only piece. -/

namespace MediaRelay

namespace Text

theorem byteSize_append (s t : List Char) : byteSize (s ++ t) = byteSize s + byteSize t := by
  induction s with
  | nil => simp [byteSize]
  | cons c cs ih => simp only [List.cons_append, byteSize, ih, Nat.add_assoc]

theorem byteSize_le_of_isPrefix {s t : List Char} (h : s <+: t) : byteSize s ≤ byteSize t := by
  obtain ⟨rest, rfl⟩ := h
  rw [byteSize_append]
  exact Nat.le_add_right _ _

theorem byteSize_eq (s : List Char) : byteSize s = (String.ofList s).utf8ByteSize := by
  induction s with
  | nil => rfl
  | cons c cs ih =>
    rw [← List.singleton_append, String.ofList_append, String.utf8ByteSize_append, ← ih]
    simp [byteSize]

theorem length_le_byteSize (s : List Char) : s.length ≤ byteSize s := by
  induction s with
  | nil => exact Nat.le_refl 0
  | cons c cs ih =>
    have hpos := c.utf8Size_pos
    simp only [List.length_cons, byteSize]
    omega

theorem byteSize_splitBytes_le (room : ℕ) (s : List Char) :
    byteSize (splitBytes room s).1 ≤ room := by
  induction s generalizing room with
  | nil => exact Nat.zero_le _
  | cons c cs ih =>
    rw [splitBytes]
    split_ifs with h
    · have := ih (room - c.utf8Size)
      simp only [byteSize]
      omega
    · exact Nat.zero_le _

/-- Nothing is left of a text that fits, and of no other. -/
theorem splitBytes_eq_nil_iff {room : ℕ} {s : List Char} :
    (splitBytes room s).2 = [] ↔ byteSize s ≤ room := by
  induction s generalizing room with
  | nil => simp [splitBytes, byteSize]
  | cons c cs ih =>
    rw [splitBytes]
    split_ifs with h
    · simp only [ih, byteSize]
      omega
    · simp only [byteSize, false_iff]
      omega

theorem isPrefix_of_throughLast {mark : Char} {w p : List Char} (h : throughLast mark w = some p) :
    p <+: w := by
  unfold throughLast at h
  split at h
  · cases h
  · cases h
    rw [← List.reverse_suffix, List.reverse_reverse]
    exact List.dropWhile_suffix _

theorem cutWindow_isPrefix (w : List Char) : cutWindow w <+: w := by
  unfold cutWindow
  cases h1 : throughLast '\n' w with
  | some p => exact isPrefix_of_throughLast h1
  | none =>
    cases h2 : throughLast ' ' w with
    | some p => exact isPrefix_of_throughLast h2
    | none => exact List.prefix_refl w

theorem splitBytes_isPrefix (room : ℕ) (s : List Char) : (splitBytes room s).1 <+: s :=
  ⟨_, splitBytes_append room s⟩

theorem firstPiece_isPrefix (limit : ℕ) (s : List Char) : firstPiece limit s <+: s := by
  unfold firstPiece
  split
  · exact List.take_prefix 1 s
  · exact (cutWindow_isPrefix _).trans (splitBytes_isPrefix limit s)

theorem firstPiece_fits (limit : ℕ) {s : List Char} (hs : s ≠ []) :
    byteSize (firstPiece limit s) ≤ limit ∨ (firstPiece limit s).length = 1 := by
  unfold firstPiece
  split
  · right
    rw [List.length_take]
    have := List.length_pos_of_ne_nil hs
    omega
  · left
    exact Nat.le_trans (byteSize_le_of_isPrefix (cutWindow_isPrefix _))
      (byteSize_splitBytes_le limit s)

theorem flatten_pieces (limit : ℕ) (s : List Char) : (pieces limit s).flatten = s := by
  fun_induction pieces limit s with
  | case1 => rfl
  | case2 s _ _ => exact List.append_nil s
  | case3 s _ _ head ih =>
    rw [List.flatten_cons, ih]
    exact List.prefix_iff_eq_append.1 (firstPiece_isPrefix limit s)

theorem fits_of_mem_pieces {limit : ℕ} {s p : List Char} (hp : p ∈ pieces limit s) :
    byteSize p ≤ limit ∨ p.length = 1 := by
  fun_induction pieces limit s with
  | case1 => cases hp
  | case2 s _ hfits =>
    rw [List.mem_singleton.1 hp]
    exact .inl (splitBytes_eq_nil_iff.1 hfits)
  | case3 s hs _ head ih =>
    rcases List.mem_cons.1 hp with rfl | hp
    · exact firstPiece_fits limit hs
    · exact ih hp

theorem flatten_split (limit : ℕ) (s : List Char) : (split limit s).flatten = s := by
  cases s with
  | nil => rfl
  | cons c cs => exact flatten_pieces _ _

theorem split_ne_nil (limit : ℕ) (s : List Char) : split limit s ≠ [] := by
  intro h
  have hs := flatten_split limit s
  rw [h, List.flatten_nil] at hs
  subst hs
  cases h

theorem fits_of_mem_split {limit : ℕ} {s p : List Char} (hp : p ∈ split limit s) :
    byteSize p ≤ max limit 1 ∨ p.length = 1 := by
  cases s with
  | nil =>
    rw [List.mem_singleton.1 hp]
    exact .inl (Nat.zero_le _)
  | cons c cs => exact fits_of_mem_pieces hp

/-- A text that fits is not cut. -/
theorem split_of_fits {limit : ℕ} {s : List Char} (h : byteSize s ≤ limit) :
    split limit s = [s] := by
  cases s with
  | nil => rfl
  | cons c cs =>
    change pieces (max limit 1) (c :: cs) = [c :: cs]
    rw [pieces, dif_neg (List.cons_ne_nil c cs),
      if_pos (splitBytes_eq_nil_iff.2 (Nat.le_trans h (Nat.le_max_left _ _)))]

end Text

theorem join_splitText (text : String) (limit : ℕ) : String.join (splitText text limit) = text := by
  rw [← String.toList_inj, String.toList_join, splitText, List.flatMap_map]
  simp only [String.toList_ofList, List.flatMap_id']
  exact Text.flatten_split limit text.toList

theorem splitText_of_fits {text : String} {limit : ℕ} (h : text.utf8ByteSize ≤ limit) :
    splitText text limit = [text] := by
  have hsize : Text.byteSize text.toList ≤ limit := by
    rwa [Text.byteSize_eq, String.ofList_toList]
  rw [splitText, Text.split_of_fits hsize, List.map_singleton, String.ofList_toList]

/-- Where the limit has room for any character, every piece keeps to it. -/
theorem utf8ByteSize_le_of_mem_splitText {text piece : String} {limit : ℕ} (hlimit : 4 ≤ limit)
    (h : piece ∈ splitText text limit) : piece.utf8ByteSize ≤ limit := by
  obtain ⟨p, hp, rfl⟩ := List.mem_map.1 h
  rw [← Text.byteSize_eq]
  rcases Text.fits_of_mem_split hp with hfits | hone
  · omega
  · obtain ⟨c, rfl⟩ := List.length_eq_one_iff.1 hone
    have := c.utf8Size_le_four
    simp only [Text.byteSize]
    omega

end MediaRelay
