import MediaRelay.Proofs.List
import MediaRelay.Web.Url
/-! How a link of the web is read: whatever stands after the authority is only added to what the
authority gave. -/

namespace MediaRelay.Web.Url

def IsTail (t : List Char) : Prop := t.head?.all (fun c => c = '/' || c = '?' || c = '#') = true

instance (t : List Char) : Decidable (IsTail t) := inferInstanceAs (Decidable (_ = true))

theorem isTail_iff {t : List Char} :
    IsTail t ↔ ∀ c ∈ t.head?, c = '/' ∨ c = '?' ∨ c = '#' := by
  cases t <;> simp [IsTail, or_assoc]

theorem isTail_cons {c : Char} {cs : List Char} :
    IsTail (c :: cs) ↔ c = '/' ∨ c = '?' ∨ c = '#' := by
  simp [isTail_iff]

theorem IsTail.of_isPrefix {s t : List Char} (h : IsTail t) (hs : s <+: t) : IsTail s := by
  cases s with
  | nil => rfl
  | cons c cs =>
    obtain ⟨rest, rfl⟩ := hs
    exact isTail_cons.2 (isTail_cons.1 h)

theorem IsTail.takeWhile_eq_nil {t : List Char} (h : IsTail t) :
    t.takeWhile (!endsAuthority true ·) = [] := by
  cases t with
  | nil => rfl
  | cons c cs =>
    rw [List.takeWhile_cons_of_neg]
    rcases isTail_cons.1 h with rfl | rfl | rfl <;> decide

@[simp] theorem host_withTail (u : Url) (t : List Char) : (u.withTail t).host = u.host := by
  rw [withTail]

structure IsAuthority (a : List Char) : Prop where
  ne_nil : a ≠ []
  plain : ∀ c ∈ a, endsAuthority true c = false ∧ isEdge c = false

theorem isDropped_of_isEdge {c : Char} (h : isEdge c = false) : isDropped c = false := by
  have hlow : ¬ c.toNat ≤ 0x20 := of_decide_eq_false h
  simp only [isDropped, Bool.or_eq_false_iff, decide_eq_false_iff_not]
  refine ⟨⟨?_, ?_⟩, ?_⟩ <;> (rintro rfl; exact hlow (by decide))

/-- A tail without blanks and controls at its end and without tabs and line breaks. -/
def cleanTail (t : List Char) : List Char := (t.rdropWhile isEdge).filter (!isDropped ·)

/-- Cleaning keeps the start of a tail, if it keeps any of it. -/
theorem mem_head?_of_cleanTail {t : List Char} (ht : ∀ c ∈ t.head?, isDropped c = false) {c : Char}
    (hc : c ∈ (cleanTail t).head?) : c ∈ t.head? := by
  obtain ⟨rest, hrest⟩ := List.rdropWhile_prefix isEdge t
  unfold cleanTail at hc
  cases hkept : t.rdropWhile isEdge with
  | nil =>
    rw [hkept] at hc
    cases hc
  | cons d kept =>
    rw [hkept] at hc hrest
    subst hrest
    have hd : isDropped d = false := ht d rfl
    rw [List.filter_cons_of_pos (by rw [hd]; rfl)] at hc
    exact hc

theorem IsTail.cleanTail {t : List Char} (h : IsTail t) : IsTail (cleanTail t) := by
  have hkept : ∀ c ∈ t.head?, isDropped c = false := by
    intro c hc
    rcases isTail_iff.1 h c hc with rfl | rfl | rfl <;> decide
  apply isTail_iff.2
  intro c hc
  exact isTail_iff.1 h c (mem_head?_of_cleanTail hkept hc)

/-- Cleaning reaches only what follows a part without blanks and controls. -/
theorem cleanTail_append {s : List Char} (hs : ∀ c ∈ s, isEdge c = false) (t : List Char) :
    cleanTail (s ++ t) = s ++ cleanTail t := by
  have hkept : s.filter (!isDropped ·) = s := by
    apply List.filter_eq_self.2
    intro c hc
    rw [isDropped_of_isEdge (hs c hc)]
    rfl
  rw [cleanTail, rdropWhile_append_of_forall t hs, List.filter_append, hkept, cleanTail]

theorem clean_append {s : List Char} (hne : s ≠ []) (hs : ∀ c ∈ s, isEdge c = false)
    (t : List Char) : clean (s ++ t) = s ++ cleanTail t := by
  have hstart : (s ++ t).dropWhile isEdge = s ++ t := by
    cases s with
    | nil => exact absurd rfl hne
    | cons c cs => exact List.dropWhile_cons_of_neg (by simp [hs c (.head _)])
  rw [clean, hstart]
  -- `clean` drops at the end by way of the reversed text, as `rdropWhile` does.
  exact cleanTail_append hs t

/-- What follows the slashes is split where the authority ends. -/
theorem afterSlashes_append {scheme a t : List Char} (hscheme : isSpecial scheme = true)
    (ha : ∀ c ∈ a, endsAuthority true c = false) (ht : IsTail t) :
    afterSlashes scheme (a ++ t) = (parseAuthority scheme a).map (·.withTail t) := by
  have hall : ∀ c ∈ a, (!endsAuthority true c) = true := by
    intro c hc
    rw [ha c hc]
    rfl
  have htake : (a ++ t).takeWhile (!endsAuthority true ·) = a := by
    rw [List.takeWhile_append_of_pos hall, ht.takeWhile_eq_nil, List.append_nil]
  have hdrop : (a ++ t).dropWhile (!endsAuthority true ·) = t := by
    have hsplit := List.takeWhile_append_dropWhile (p := (!endsAuthority true ·)) (l := t)
    rw [ht.takeWhile_eq_nil, List.nil_append] at hsplit
    rw [List.dropWhile_append_of_pos hall, hsplit]
  rw [afterSlashes, hscheme, htake, hdrop]
  cases parseAuthority scheme a <;> rfl

/-- A link of the web is read as its authority says; the rest, cleaned, is added. -/
theorem parse_link {scheme a t : List Char}
    (hscheme : scheme = "http".toList ∨ scheme = "https".toList) (ha : IsAuthority a)
    (ht : IsTail t) :
    parse (scheme ++ "://".toList ++ a ++ t) =
      (parseAuthority scheme a).map (·.withTail (cleanTail t)) := by
  -- Nothing up to the end of the authority is cleaned away.
  have hne : scheme ++ "://".toList ++ a ≠ [] := by simp
  have hfront : ∀ c ∈ scheme ++ "://".toList ++ a, isEdge c = false := by
    intro c hc
    rcases List.mem_append.1 hc with hc | hc
    · have hall : (scheme ++ "://".toList).all (!isEdge ·) = true := by
        rcases hscheme with rfl | rfl <;> decide
      simpa using List.all_eq_true.1 hall c hc
    · exact (ha.plain c hc).2
  have hsplit : splitScheme? (scheme ++ "://".toList ++ a ++ cleanTail t) =
      some (scheme, "//".toList ++ (a ++ cleanTail t)) := by
    rcases hscheme with rfl | rfl <;> rfl
  have hfile : scheme ≠ fileScheme := by rcases hscheme with rfl | rfl <;> decide
  have hspecial : isSpecial scheme = true := by rcases hscheme with rfl | rfl <;> decide
  have hboth : ∀ c ∈ "//".toList, isSlash true c = true := List.all_eq_true.1 (by decide)
  have hslashes : ("//".toList ++ (a ++ cleanTail t)).dropWhile (isSlash true) =
      a ++ cleanTail t := by
    obtain ⟨c, cs, rfl⟩ := List.exists_cons_of_ne_nil ha.ne_nil
    have hc : isSlash true c = false := by
      have hplain := (ha.plain c (.head _)).1
      simp only [endsAuthority, Bool.or_eq_false_iff] at hplain
      exact hplain.1.1
    rw [List.dropWhile_append_of_pos hboth, List.cons_append,
      List.dropWhile_cons_of_neg (by simp [hc])]
  rw [parse, parseFrom, clean_append hne hfront, hsplit]
  dsimp only
  rw [if_neg hfile, if_pos hspecial, hslashes]
  apply afterSlashes_append hspecial _ ht.cleanTail
  intro c hc
  exact (ha.plain c hc).1

end MediaRelay.Web.Url
