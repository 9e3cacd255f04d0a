import Mathlib.Data.List.Basic
import MediaRelay.Telegram.Album
/-! Albums hold all attachments, and each of them once. They are as full as they can be, and how a
list is put together into albums is told by what the albums are like. -/

namespace MediaRelay.Telegram

section

variable {α : Type} {n : ℕ} {l : List α} {pieces : List (List α)}

theorem flatten_inPieces (n : ℕ) (l : List α) : (inPieces n l).flatten = l := by
  fun_induction inPieces n l with
  | case1 => rfl
  | case2 a rest ih => rw [List.flatten_cons, ih, List.cons_append, List.take_append_drop]

theorem ne_nil_of_mem_inPieces {piece : List α} (h : piece ∈ inPieces n l) : piece ≠ [] := by
  fun_induction inPieces n l with
  | case1 => cases h
  | case2 a rest ih =>
    rcases List.mem_cons.1 h with rfl | h
    · exact List.cons_ne_nil _ _
    · exact ih h

theorem inPieces_eq_nil_iff : inPieces n l = [] ↔ l = [] := by
  cases l with
  | nil => simp [inPieces]
  | cons a rest => simp [inPieces]

structure IsFilled (n : ℕ) (pieces : List (List α)) : Prop where
  sizes : ∀ piece ∈ pieces, 1 ≤ piece.length ∧ piece.length ≤ n
  full : ∀ piece ∈ pieces.dropLast, piece.length = n

theorem isFilled_inPieces (hn : 1 ≤ n) (l : List α) : IsFilled n (inPieces n l) := by
  fun_induction inPieces n l with
  | case1 => exact ⟨by simp, by simp⟩
  | case2 a rest ih =>
    refine ⟨List.forall_mem_cons.2 ⟨?_, ih.sizes⟩, fun piece hpiece => ?_⟩
    · simp only [List.length_cons, List.length_take]
      omega
    · by_cases hrest : inPieces n (rest.drop (n - 1)) = []
      · simp [hrest] at hpiece
      · rw [List.dropLast_cons_of_ne_nil hrest] at hpiece
        rcases List.mem_cons.1 hpiece with rfl | hpiece
        · -- something is left for another piece, so this one took all that it may
          have hleft := List.length_pos_of_ne_nil (mt inPieces_eq_nil_iff.2 hrest)
          simp only [List.length_drop] at hleft
          simp only [List.length_cons, List.length_take]
          omega
        · exact ih.full piece hpiece

/-- There is one way to fill pieces with a list. -/
theorem IsFilled.eq_inPieces (h : IsFilled n pieces) : pieces = inPieces n pieces.flatten := by
  induction pieces with
  | nil => simp [inPieces]
  | cons piece pieces ih =>
    obtain ⟨⟨hpos, hle⟩, hsizes⟩ := List.forall_mem_cons.1 h.sizes
    obtain ⟨a, rest, rfl⟩ := List.exists_cons_of_length_pos hpos
    rw [List.length_cons] at hle
    rw [List.flatten_cons, List.cons_append, inPieces]
    by_cases hlast : pieces = []
    · subst hlast
      rw [List.flatten_nil, List.append_nil, List.take_of_length_le (by omega),
        List.drop_of_length_le (by omega), inPieces]
    · have hdrop := List.dropLast_cons_of_ne_nil (x := a :: rest) hlast
      have hfull := h.full
      rw [hdrop] at hfull
      obtain ⟨hlength, hfull⟩ := List.forall_mem_cons.1 hfull
      rw [List.length_cons] at hlength
      rw [List.take_left' (by omega), List.drop_left' (by omega), ← ih ⟨hsizes, hfull⟩]

end

theorem flatten_albums_perm (attachments : List Attachment) :
    (albums attachments).flatten.Perm attachments := by
  rw [albums, List.flatten_append, flatten_inPieces, flatten_inPieces]
  exact List.perm_append_comm.trans (List.filter_append_perm isDocument attachments)

theorem ne_nil_of_mem_albums {attachments album : List Attachment}
    (h : album ∈ albums attachments) : album ≠ [] := by
  rcases List.mem_append.1 h with h | h <;> exact ne_nil_of_mem_inPieces h

/-! ### Two classes -/

section

variable {attachments album : List Attachment} {groups : List (List Attachment)} {d : Bool}

def ofClass (d : Bool) (groups : List (List Attachment)) : List (List Attachment) :=
  groups.filter fun album => album.all (isDocument · == d)

/-- How attachments are grouped: none is lost and none stands twice, photos and videos come before
documents and do not go with them, and within a class all albums but the last are full. -/
structure IsGrouped (attachments : List Attachment) (groups : List (List Attachment)) : Prop where
  inOrder : groups.flatten =
    attachments.filter (fun a => a.kind ≠ .document) ++
      attachments.filter (fun a => a.kind = .document)
  once : groups.flatten.Perm attachments
  sizes : ∀ album ∈ groups, 1 ≤ album.length ∧ album.length ≤ 10
  unmixed : ∀ album ∈ groups, ∀ a ∈ album, ∀ b ∈ album, a.kind = .document → b.kind = .document
  full : ∀ d, ∀ album ∈ (ofClass d groups).dropLast, album.length = 10

theorem isDocument_iff {a : Attachment} : isDocument a = true ↔ a.kind = .document := by
  rw [isDocument, beq_iff_eq]

theorem filter_isDocument (attachments : List Attachment) :
    attachments.filter isDocument = attachments.filter fun a => a.kind = .document :=
  List.filter_congr fun a _ => by rw [Bool.eq_iff_iff, isDocument_iff, decide_eq_true_iff]

theorem filter_not_isDocument (attachments : List Attachment) :
    attachments.filter (fun a => !isDocument a) = attachments.filter fun a => a.kind ≠ .document :=
  List.filter_congr fun a _ => by
    rw [Bool.eq_iff_iff, Bool.not_eq_true', decide_eq_true_iff, ne_eq, ← isDocument_iff,
      Bool.not_eq_true]

def AllOfClass (d : Bool) (groups : List (List Attachment)) : Prop :=
  ∀ album ∈ groups, album ≠ [] ∧ ∀ a ∈ album, isDocument a = d

theorem allOfClass_inPieces {n : ℕ} {l : List Attachment} (h : ∀ a ∈ l, isDocument a = d) :
    AllOfClass d (inPieces n l) := by
  refine fun album halbum => ⟨ne_nil_of_mem_inPieces halbum, fun a ha => h a ?_⟩
  rw [← flatten_inPieces n l]
  exact List.mem_flatten_of_mem halbum ha

theorem AllOfClass.ofClass_eq (h : AllOfClass d groups) : ofClass d groups = groups :=
  List.filter_eq_self.2 fun album halbum =>
    List.all_eq_true.2 fun a ha => beq_iff_eq.2 ((h album halbum).2 a ha)

theorem AllOfClass.ofClass_eq_nil {d' : Bool} (h : AllOfClass d groups) (hd : d ≠ d') :
    ofClass d' groups = [] := by
  refine List.filter_eq_nil_iff.2 fun album halbum hall => ?_
  obtain ⟨hne, hclass⟩ := h album halbum
  obtain ⟨a, ha⟩ := List.exists_mem_of_ne_nil album hne
  exact hd ((hclass a ha).symm.trans (beq_iff_eq.1 (List.all_eq_true.1 hall a ha)))

theorem ofClass_append (d : Bool) (groups groups' : List (List Attachment)) :
    ofClass d (groups ++ groups') = ofClass d groups ++ ofClass d groups' :=
  List.filter_append _ _

theorem isGrouped_albums (attachments : List Attachment) :
    IsGrouped attachments (albums attachments) := by
  have hvisual := isFilled_inPieces (n := albumLimit) (by decide)
    (attachments.filter fun a => !isDocument a)
  have hdocuments := isFilled_inPieces (n := albumLimit) (by decide)
    (attachments.filter isDocument)
  have hisVisual : AllOfClass false
      (inPieces albumLimit (attachments.filter fun a => !isDocument a)) :=
    allOfClass_inPieces fun a ha => by simpa using (List.mem_filter.1 ha).2
  have hisDocument : AllOfClass true (inPieces albumLimit (attachments.filter isDocument)) :=
    allOfClass_inPieces fun a ha => (List.mem_filter.1 ha).2
  refine ⟨?_, flatten_albums_perm attachments, ?_, ?_, ?_⟩
  · rw [albums, List.flatten_append, flatten_inPieces, flatten_inPieces, filter_isDocument,
      filter_not_isDocument]
  · exact List.forall_mem_append.2 ⟨hvisual.sizes, hdocuments.sizes⟩
  · intro album halbum a ha b hb hdoc
    rw [← isDocument_iff] at hdoc ⊢
    rcases List.mem_append.1 halbum with h | h
    · rw [(hisVisual album h).2 a ha] at hdoc
      cases hdoc
    · exact (hisDocument album h).2 b hb
  · intro d
    rw [albums, ofClass_append]
    cases d with
    | false =>
      rw [hisVisual.ofClass_eq, hisDocument.ofClass_eq_nil (by decide), List.append_nil]
      exact hvisual.full
    | true =>
      rw [hisVisual.ofClass_eq_nil (by decide), hisDocument.ofClass_eq, List.nil_append]
      exact hdocuments.full

/-- A group without documents stands in front of all documents. -/
theorem exists_left_of_append_eq {rest visual documents : List Attachment}
    (halbum : ∀ a ∈ album, isDocument a = false) (hdocuments : ∀ a ∈ documents, isDocument a = true)
    (h : album ++ rest = visual ++ documents) :
    ∃ left, visual = album ++ left ∧ rest = left ++ documents := by
  rcases List.append_eq_append_iff.1 h with ⟨left, hleft, hrest⟩ | ⟨extra, hextra, hrest⟩
  · exact ⟨left, hleft, hrest⟩
  · -- what would reach into the documents would be of both classes
    have hnone : extra = [] := List.eq_nil_iff_forall_not_mem.2 fun a ha => by
      have hno := halbum a (by rw [hextra]; exact List.mem_append_right _ ha)
      have hyes := hdocuments a (by rw [hrest]; exact List.mem_append_left _ ha)
      rw [hno] at hyes
      cases hyes
    subst hnone
    exact ⟨[], by rw [hextra, List.append_nil, List.append_nil], hrest.symm⟩

/-- Where unmixed groups hold the one class and then the other, so do they themselves. -/
theorem classes_of_flatten {visual documents : List Attachment}
    (hflatten : groups.flatten = visual ++ documents) (hne : ∀ album ∈ groups, album ≠ [])
    (hunmixed : ∀ album ∈ groups, ∀ a ∈ album, ∀ b ∈ album, isDocument a = isDocument b)
    (hvisual : ∀ a ∈ visual, isDocument a = false)
    (hdocuments : ∀ a ∈ documents, isDocument a = true) :
    ∃ first last, groups = first ++ last ∧ first.flatten = visual ∧ last.flatten = documents ∧
      AllOfClass false first ∧ AllOfClass true last := by
  induction groups generalizing visual with
  | nil =>
    obtain ⟨rfl, rfl⟩ := List.append_eq_nil_iff.1 hflatten.symm
    exact ⟨[], [], rfl, rfl, rfl, by simp [AllOfClass], by simp [AllOfClass]⟩
  | cons album groups ih =>
    cases visual with
    | nil =>
      refine ⟨[], album :: groups, rfl, rfl, hflatten, by simp [AllOfClass], fun g hg => ?_⟩
      refine ⟨hne g hg, fun a ha => hdocuments a ?_⟩
      rw [← List.nil_append documents, ← hflatten]
      exact List.mem_flatten_of_mem hg ha
    | cons v visual =>
      obtain ⟨hnealbum, hne⟩ := List.forall_mem_cons.1 hne
      obtain ⟨hunmixedalbum, hunmixed⟩ := List.forall_mem_cons.1 hunmixed
      rw [List.flatten_cons] at hflatten
      -- the first entry is no document, so none in its group is
      have halbum : ∀ a ∈ album, isDocument a = false := by
        intro a ha
        obtain ⟨b, rest, rfl⟩ := List.exists_cons_of_ne_nil hnealbum
        obtain ⟨rfl, -⟩ := List.cons.inj hflatten
        rw [hunmixedalbum a ha b List.mem_cons_self, hvisual b List.mem_cons_self]
      obtain ⟨left, hleft, hrest⟩ := exists_left_of_append_eq halbum hdocuments hflatten
      rw [hleft] at hvisual
      obtain ⟨first, last, rfl, rfl, hlast, hfirst, hclass⟩ :=
        ih hrest hne hunmixed fun a ha => hvisual a (List.mem_append_right _ ha)
      exact ⟨album :: first, last, rfl, by rw [hleft, List.flatten_cons], hlast,
        List.forall_mem_cons.2 ⟨⟨hnealbum, halbum⟩, hfirst⟩, hclass⟩

/-- There is one way to group attachments. -/
theorem IsGrouped.eq_albums (h : IsGrouped attachments groups) : groups = albums attachments := by
  have hne : ∀ album ∈ groups, album ≠ [] := fun album halbum =>
    List.ne_nil_of_length_pos (h.sizes album halbum).1
  have hunmixed : ∀ album ∈ groups, ∀ a ∈ album, ∀ b ∈ album, isDocument a = isDocument b := by
    intro album halbum a ha b hb
    rw [Bool.eq_iff_iff, isDocument_iff, isDocument_iff]
    exact ⟨h.unmixed album halbum a ha b hb, h.unmixed album halbum b hb a ha⟩
  have hflatten := h.inOrder
  rw [← filter_isDocument, ← filter_not_isDocument] at hflatten
  obtain ⟨first, last, rfl, hvisual, hdocuments, hfirst, hlast⟩ :=
    classes_of_flatten hflatten hne hunmixed
      (fun a ha => by simpa using (List.mem_filter.1 ha).2) fun a ha => (List.mem_filter.1 ha).2
  have hfilled₁ : IsFilled albumLimit first := by
    refine ⟨fun album halbum => h.sizes album (List.mem_append_left _ halbum), ?_⟩
    have hclass := h.full false
    rwa [ofClass_append, hfirst.ofClass_eq, hlast.ofClass_eq_nil (by decide),
      List.append_nil] at hclass
  have hfilled₂ : IsFilled albumLimit last := by
    refine ⟨fun album halbum => h.sizes album (List.mem_append_right _ halbum), ?_⟩
    have hclass := h.full true
    rwa [ofClass_append, hfirst.ofClass_eq_nil (by decide), hlast.ofClass_eq] at hclass
  rw [albums, ← hvisual, ← hdocuments, ← hfilled₁.eq_inPieces, ← hfilled₂.eq_inPieces]

end

end MediaRelay.Telegram
