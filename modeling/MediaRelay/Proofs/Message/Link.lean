import MediaRelay.Message.Link
import MediaRelay.Proofs.Text.Search
/-! Which link is found in a message. It begins at the leftmost place where `http://` or `https://`
stands with something other than a blank right behind it, whatever comes before, and goes on up to the
next blank; where there is no such place, no link is found. -/

namespace MediaRelay

namespace Text

variable {s link : List Char}

/-- One of the two starts of a link, and something other than a blank right behind it. -/
def BeginsLink (s : List Char) : Prop := Announces ["https://", "http://"] (!isBlank ·) s

theorem beginsLink_iff : BeginsLink s ↔ ∃ c rest,
    (stripPrefix? httpsStart s <|> stripPrefix? httpStart s) = some (c :: rest) ∧
      (!isBlank c) = true :=
  announces_pair_iff (by decide) (by decide)

theorem linkAt_eq_some_iff :
    linkAt s = some link ↔ BeginsLink s ∧ s.takeWhile (!isBlank ·) = link := by
  rw [beginsLink_iff]
  unfold linkAt
  cases stripPrefix? httpsStart s <|> stripPrefix? httpStart s with
  | none => simp
  | some rest =>
    cases rest with
    | nil => simp
    | cons c rest => cases hc : isBlank c <;> simp [hc]

theorem linkAt_eq_none_iff : linkAt s = none ↔ ¬ BeginsLink s := by
  simp [Option.eq_none_iff_forall_ne_some, linkAt_eq_some_iff]

structure IsFirstLink (before link after : List Char) : Prop where
  begins : BeginsLink (link ++ after)
  /-- There is no blank in the link, and one after it, or the end. -/
  whole : IsWholeRun (!isBlank ·) link after
  first : ∀ i < before.length, ¬ BeginsLink ((before ++ (link ++ after)).drop i)

theorem findLink_eq_some_iff : findLink s = some link ↔
    ∃ before after, s = before ++ (link ++ after) ∧ IsFirstLink before link after := by
  simp only [findLink, firstMatch_eq_some_iff_append, linkAt_eq_some_iff, linkAt_eq_none_iff,
    takeWhile_eq_iff]
  constructor
  · rintro ⟨before, _, rfl, ⟨hbegins, after, rfl, hwhole⟩, hfirst⟩
    exact ⟨before, after, rfl, hbegins, hwhole, hfirst⟩
  · rintro ⟨before, after, rfl, hbegins, hwhole, hfirst⟩
    exact ⟨before, link ++ after, rfl, ⟨hbegins, after, rfl, hwhole⟩, hfirst⟩

end Text

/-- No link is found in a text in which none begins; in any other one, the first link is found, up to
the next blank. -/
theorem findLink_isFirst (text : String) :
    (findLink text = none ↔ ∀ i, ¬ Text.BeginsLink (text.toList.drop i)) ∧
      ∀ link, findLink text = some link ↔ ∃ before after,
        text.toList = before ++ (link.toList ++ after) ∧
          Text.IsFirstLink before link.toList after := by
  constructor
  · rw [findLink, Option.map_eq_none_iff, Text.findLink, Text.firstMatch_eq_none_iff]
    simp only [Text.linkAt_eq_none_iff]
  · intro link
    rw [findLink, Option.map_eq_some_iff, ← Text.findLink_eq_some_iff]
    constructor
    · rintro ⟨found, hfound, rfl⟩
      rwa [String.toList_ofList]
    · intro hfound
      exact ⟨link.toList, hfound, String.ofList_toList⟩

/-- A start without anything behind it is passed over, and so is one before a blank of any kind. -/
example : findLink "http:// xhttps://\u00a0\u3000(http://a.test/é)\u2003b" =
    some "http://a.test/é)" := by decide +kernel

end MediaRelay
