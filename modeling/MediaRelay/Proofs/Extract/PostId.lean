import MediaRelay.Extract.PostId
import MediaRelay.Proofs.Text.Search
/-! Which number of a post is found in a link. It stands behind the leftmost of the marks `/video/` and
`/photo/` that has a digit right behind it, whichever of the two that is, and goes on as far as there
are digits; marks without a digit are passed over. -/

namespace MediaRelay.Extract

open Text (Announces IsWholeRun isDigit stripPrefix?)

variable {s digits : List Char}

def postMarks : List String := ["/video/", "/photo/"]

/-- A mark, and a digit right behind it. -/
def BeginsNumber (s : List Char) : Prop := Announces postMarks isDigit s

theorem postMark_iff {rest : List Char} :
    (stripPrefix? videoMark s <|> stripPrefix? photoMark s) = some rest ↔
      ∃ mark ∈ postMarks, s = mark.toList ++ rest := by
  have hvideo : ¬ "/video/".toList <+: "/photo/".toList := by decide
  have hphoto : ¬ "/photo/".toList <+: "/video/".toList := by decide
  exact Text.stripPrefix?_orElse_eq_some_iff hvideo hphoto

theorem digitsAt_eq_some_iff_exists : digitsAt s = some digits ↔ ∃ rest,
    (stripPrefix? videoMark s <|> stripPrefix? photoMark s) = some rest ∧
      rest.takeWhile isDigit = digits ∧ digits ≠ [] := by
  unfold digitsAt
  cases stripPrefix? videoMark s <|> stripPrefix? photoMark s with
  | none => simp
  | some rest =>
    cases hrun : rest.takeWhile isDigit with
    | nil =>
      constructor
      · simp [hrun]
      · rintro ⟨_, ⟨⟩, hdigits, hne⟩
        exact absurd (hdigits.symm.trans hrun) hne
    | cons c run =>
      constructor
      · simp only [hrun]
        rintro ⟨⟩
        exact ⟨rest, rfl, hrun, List.cons_ne_nil c run⟩
      · rintro ⟨_, ⟨⟩, rfl, -⟩
        simp only [hrun]

theorem digitsAt_eq_some_iff : digitsAt s = some digits ↔ digits ≠ [] ∧ ∃ mark ∈ postMarks,
    ∃ after, s = mark.toList ++ (digits ++ after) ∧ IsWholeRun isDigit digits after := by
  simp only [digitsAt_eq_some_iff_exists, postMark_iff, Text.takeWhile_eq_iff]
  constructor
  · rintro ⟨_, ⟨mark, hmark, rfl⟩, ⟨after, rfl, hwhole⟩, hne⟩
    exact ⟨hne, mark, hmark, after, rfl, hwhole⟩
  · rintro ⟨hne, mark, hmark, after, rfl, hwhole⟩
    exact ⟨digits ++ after, ⟨mark, hmark, rfl⟩, ⟨after, rfl, hwhole⟩, hne⟩

theorem digitsAt_eq_none_iff : digitsAt s = none ↔ ¬ BeginsNumber s := by
  rw [← not_iff_not, not_not, ← ne_eq, Option.ne_none_iff_exists']
  constructor
  · rintro ⟨digits, h⟩
    obtain ⟨hne, mark, hmark, after, rfl, hwhole⟩ := digitsAt_eq_some_iff.1 h
    obtain ⟨c, digits, rfl⟩ := List.exists_cons_of_ne_nil hne
    exact ⟨mark, hmark, c, digits ++ after, rfl, hwhole.mem c List.mem_cons_self⟩
  · rintro ⟨mark, hmark, c, rest, rfl, hc⟩
    refine ⟨(c :: rest).takeWhile isDigit, digitsAt_eq_some_iff_exists.2 ?_⟩
    exact ⟨c :: rest, postMark_iff.2 ⟨mark, hmark, rfl⟩, rfl, by simp [hc]⟩

structure IsFirstNumber (before : List Char) (mark : String) (digits after : List Char) : Prop where
  mark_mem : mark ∈ postMarks
  ne_nil : digits ≠ []
  /-- There are digits only, and none after them. -/
  whole : IsWholeRun isDigit digits after
  first : ∀ i < before.length,
    ¬ BeginsNumber ((before ++ (mark.toList ++ (digits ++ after))).drop i)

/-- No number is found in a link in which none stands behind a mark; in any other one, it is the first
of those that do, with all its digits. -/
theorem postId_isFirst (link : String) :
    (postId link = none ↔ ∀ i, ¬ BeginsNumber (link.toList.drop i)) ∧
      ∀ id, postId link = some id ↔ ∃ before mark after,
        link.toList = before ++ (mark.toList ++ (id.toList ++ after)) ∧
          IsFirstNumber before mark id.toList after := by
  constructor
  · rw [postId, Option.map_eq_none_iff, Text.firstMatch_eq_none_iff]
    simp only [digitsAt_eq_none_iff]
  · intro id
    simp only [postId, Option.map_eq_some_iff, Text.firstMatch_eq_some_iff_append,
      digitsAt_eq_some_iff, digitsAt_eq_none_iff]
    constructor
    · rintro ⟨digits, ⟨before, _, hlink, ⟨hne, mark, hmark, after, rfl, hwhole⟩, hfirst⟩, rfl⟩
      rw [hlink] at hfirst
      rw [String.toList_ofList]
      exact ⟨before, mark, after, hlink, hmark, hne, hwhole, hfirst⟩
    · rintro ⟨before, mark, after, hlink, hmark, hne, hwhole, hfirst⟩
      rw [← hlink] at hfirst
      refine ⟨id.toList, ⟨before, mark.toList ++ (id.toList ++ after), hlink, ?_, hfirst⟩, ?_⟩
      · exact ⟨hne, mark, hmark, after, rfl, hwhole⟩
      · exact String.ofList_toList

/-- Marks without a digit behind them, and one that overlaps the next one. -/
example : postId "/video/x/photo/video/12٣-/photo/45" = some "12٣" := by decide +kernel

end MediaRelay.Extract
