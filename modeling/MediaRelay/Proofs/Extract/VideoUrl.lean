import MediaRelay.Extract.VideoUrl
import MediaRelay.Proofs.Text.Search
import MediaRelay.Proofs.Text.Spaced
/-! Which film of a page is taken. A page can hold addresses in several spellings, some of them
empty. The best choice passes over the empty ones; the search passes over the spellings that do not
occur, and gives up a whole list at the first one that occurs with nothing in it. The two agree but
for the pages on which such an empty address hides another one. -/

namespace MediaRelay.Extract

open Text (IsGap)

variable {spelling : Spelling} {spellings : List Spelling} {page s v u : List Char}

/-! ### Addresses in one spelling -/

/-- How a text begins that begins with an address in a spelling. A member runs up to the first
quote, on one line; blanks may stand around the colon of a setting; a source is what follows the
last `https://` in the value, which need not be closed. -/
inductive Spelling.Spells : Spelling → List Char → List Char → Prop where
  | member {key : String} {value rest : List Char} :
      (∀ c ∈ value, c ≠ '"' ∧ c ≠ '\n') →
      Spells (.member key) ('"' :: (key.toList ++ ("\":\"".toList ++ (value ++ '"' :: rest)))) value
  | setting {key : String} {gap gap' value rest : List Char} : IsGap gap → IsGap gap' →
      (∀ c ∈ value, c ≠ '"') →
      Spells (.setting key)
        (key.toList ++ (gap ++ ':' :: (gap' ++ '"' :: (value ++ '"' :: rest)))) value
  | source {front value rest : List Char} :
      (∀ c ∈ front ++ value, c ≠ '"') → (∀ c ∈ rest.head?, c = '"') →
      httpsMark <+: value → ¬ httpsMark <:+: value.tail →
      Spells .source ("\"src\":\"".toList ++ (front ++ value ++ rest)) value

theorem throughQuote?_eq_some_iff :
    throughQuote? s = some v ↔ (∀ c ∈ v, c ≠ '"') ∧ ∃ rest, s = v ++ '"' :: rest := by
  unfold throughQuote?
  constructor
  · intro h
    split at h
    · next rest hspan =>
      obtain ⟨hv, hs⟩ := (Text.span_eq_cons_iff (by simp)).1 hspan
      cases h
      exact ⟨by simpa using hv, rest, hs⟩
    · cases h
  · rintro ⟨hv, rest, rfl⟩
    have hspan : Text.span (· ≠ '"') (v ++ '"' :: rest) = (v, '"' :: rest) :=
      (Text.span_eq_cons_iff (by simp)).2 ⟨by simpa using hv, rfl⟩
    rw [hspan]
    rfl

theorem lastHttps_eq_some_iff {found : Option (List Char)} :
    lastHttps found s = some v ↔
      (∃ front, s = front ++ v ∧ httpsMark <+: v ∧ ¬ httpsMark <:+: v.tail) ∨
        found = some v ∧ ¬ httpsMark <:+: s := by
  induction s generalizing found with
  | nil =>
    have hmark : ¬ httpsMark <:+: [] := by decide +kernel
    constructor
    · exact fun h => .inr ⟨h, hmark⟩
    · rintro (⟨front, hfront, hv, -⟩ | ⟨h, -⟩)
      · rw [(List.append_eq_nil_iff.1 hfront.symm).2] at hv
        exact absurd hv.isInfix hmark
      · exact h
  | cons c s ih =>
    rw [lastHttps, ih, List.infix_cons_iff]
    constructor
    · rintro (⟨front, rfl, hv⟩ | ⟨hfound, hs⟩)
      · exact .inl ⟨c :: front, rfl, hv⟩
      · split_ifs at hfound with hc
        · obtain rfl := Option.some.inj hfound
          exact .inl ⟨[], rfl, List.isPrefixOf_iff_prefix.1 hc, hs⟩
        · exact .inr ⟨hfound, not_or.2 ⟨by simpa using hc, hs⟩⟩
    · rintro (⟨front, hfront, hv⟩ | ⟨hfound, hs⟩)
      · cases front with
        | nil =>
          obtain rfl : c :: s = v := hfront
          exact .inr ⟨if_pos (List.isPrefixOf_iff_prefix.2 hv.1), hv.2⟩
        | cons d front => exact .inl ⟨front, (List.cons.inj hfront).2, hv⟩
      · exact .inr ⟨by rw [if_neg (by simpa using (not_or.1 hs).1)]; exact hfound, (not_or.1 hs).2⟩

theorem at?_eq_some_iff_exists : spelling.at? spelling.mark s = some v ↔
    ∃ rest, s = spelling.mark ++ rest ∧ spelling.value? rest = some v := by
  simp only [← Text.stripPrefix?_eq_some_iff]
  unfold Spelling.at?
  cases Text.stripPrefix? spelling.mark s with
  | none => simp
  | some rest => simp

theorem value?_member_eq_some_iff {key : String} :
    (Spelling.member key).value? s = some v ↔
      (∀ c ∈ v, c ≠ '"' ∧ c ≠ '\n') ∧ ∃ rest, s = v ++ '"' :: rest := by
  simp only [Spelling.value?]
  constructor
  · intro h
    split at h
    · next rest hspan =>
      obtain ⟨hv, hs⟩ := (Text.span_eq_cons_iff (by simp)).1 hspan
      cases h
      exact ⟨by simpa using hv, rest, hs⟩
    · cases h
  · rintro ⟨hv, rest, rfl⟩
    have hspan : Text.span (fun c => c ≠ '"' && c ≠ '\n') (v ++ '"' :: rest) = (v, '"' :: rest) :=
      (Text.span_eq_cons_iff (by simp)).2 ⟨by simpa using hv, rfl⟩
    rw [hspan]
    rfl

theorem value?_setting_eq_some_iff {key : String} :
    (Spelling.setting key).value? s = some v ↔ ∃ gap gap' rest, IsGap gap ∧ IsGap gap' ∧
      (∀ c ∈ v, c ≠ '"') ∧ s = gap ++ ':' :: (gap' ++ '"' :: (v ++ '"' :: rest)) := by
  have hcolon : Text.isBlank ':' = false := by decide
  have hquote : Text.isBlank '"' = false := by decide
  simp only [Spelling.value?]
  constructor
  · intro h
    split at h
    · next after hstart =>
      obtain ⟨gap, hgap, rfl⟩ := (Text.trimStart_eq_cons_iff hcolon).1 hstart
      split at h
      · next value hafter =>
        obtain ⟨gap', hgap', rfl⟩ := (Text.trimStart_eq_cons_iff hquote).1 hafter
        obtain ⟨hv, rest, rfl⟩ := throughQuote?_eq_some_iff.1 h
        exact ⟨gap, gap', rest, hgap, hgap', hv, rfl⟩
      · cases h
    · cases h
  · rintro ⟨gap, gap', rest, hgap, hgap', hv, rfl⟩
    simp only [(Text.trimStart_eq_cons_iff hcolon).2 ⟨gap, hgap, rfl⟩,
      (Text.trimStart_eq_cons_iff hquote).2 ⟨gap', hgap', rfl⟩]
    exact throughQuote?_eq_some_iff.2 ⟨hv, rest, rfl⟩

theorem value?_source_eq_some_iff :
    Spelling.source.value? s = some v ↔ ∃ front rest, (∀ c ∈ front ++ v, c ≠ '"') ∧
      (∀ c ∈ rest.head?, c = '"') ∧ httpsMark <+: v ∧ ¬ httpsMark <:+: v.tail ∧
        s = front ++ v ++ rest := by
  rcases hspan : Text.span (· ≠ '"') s with ⟨value, rest⟩
  obtain ⟨hvalue, hrest, rfl⟩ := Text.span_eq_iff.1 hspan
  simp only [Spelling.value?, hspan, lastHttps_eq_some_iff, reduceCtorEq, false_and, or_false]
  constructor
  · rintro ⟨front, rfl, hv, hlast⟩
    exact ⟨front, rest, fun c hc => by simpa using hvalue c hc,
      fun c hc => by simpa using hrest c hc, hv, hlast, rfl⟩
  · rintro ⟨front, rest', hfront, hrest', hv, hlast, hs⟩
    -- there is only one place where the value can end
    have hspan' : Text.span (· ≠ '"') (value ++ rest) = (front ++ v, rest') :=
      Text.span_eq_iff.2 ⟨fun c hc => by simpa using hfront c hc,
        fun c hc => by simpa using hrest' c hc, hs⟩
    obtain ⟨rfl, rfl⟩ := Prod.mk.inj (hspan.symm.trans hspan')
    exact ⟨front, rfl, hv, hlast⟩

theorem mark_member_append (key : String) (rest : List Char) :
    (Spelling.member key).mark ++ rest = '"' :: (key.toList ++ ("\":\"".toList ++ rest)) :=
  congrArg (List.cons '"') (List.append_assoc _ _ _)

theorem at?_eq_some_iff : spelling.at? spelling.mark s = some v ↔ spelling.Spells s v := by
  rw [at?_eq_some_iff_exists]
  constructor
  · rintro ⟨rest, rfl, hvalue⟩
    cases spelling with
    | member key =>
      obtain ⟨hv, rest, rfl⟩ := value?_member_eq_some_iff.1 hvalue
      rw [mark_member_append]
      exact .member hv
    | setting key =>
      obtain ⟨gap, gap', rest, hgap, hgap', hv, rfl⟩ := value?_setting_eq_some_iff.1 hvalue
      exact .setting hgap hgap' hv
    | source =>
      obtain ⟨front, rest, hfront, hrest, hv, hlast, rfl⟩ := value?_source_eq_some_iff.1 hvalue
      exact .source hfront hrest hv hlast
  · intro h
    cases h with
    | @member key _ rest hv =>
      exact ⟨_, (mark_member_append key _).symm, value?_member_eq_some_iff.2 ⟨hv, _, rfl⟩⟩
    | setting hgap hgap' hv =>
      exact ⟨_, rfl, value?_setting_eq_some_iff.2 ⟨_, _, _, hgap, hgap', hv, rfl⟩⟩
    | source hfront hrest hv hlast =>
      exact ⟨_, rfl, value?_source_eq_some_iff.2 ⟨_, _, hfront, hrest, hv, hlast, rfl⟩⟩

/-- The address at the leftmost place of a page where a text begins with one in this spelling. -/
def Spelling.Captures (spelling : Spelling) (page value : List Char) : Prop :=
  ∃ i ≤ page.length, spelling.Spells (page.drop i) value ∧
    ∀ j < i, ∀ other, ¬ spelling.Spells (page.drop j) other

theorem find_eq_some_iff : spelling.find page = some v ↔ spelling.Captures page v := by
  simp only [Spelling.find, Text.firstMatch_eq_some_iff, at?_eq_some_iff, Spelling.Captures,
    Option.eq_none_iff_forall_ne_some, ne_eq]

theorem find_eq_none_iff : spelling.find page = none ↔ ∀ value, ¬ spelling.Captures page value := by
  simp only [Option.eq_none_iff_forall_ne_some, ne_eq, find_eq_some_iff]

/-! ### Addresses in a list of spellings -/

/-- The address of the first spelling in the list whose leftmost address is not empty. -/
def IsBestOf (spellings : List Spelling) (page value : List Char) : Prop :=
  ∃ earlier spelling later, spellings = earlier ++ spelling :: later ∧
    spelling.Captures page value ∧ value ≠ [] ∧
    ∀ other ∈ earlier, ∀ empty, other.Captures page empty → empty = []

/-- The address of the first spelling in the list that occurs, if it is not empty. -/
def IsShownOf (spellings : List Spelling) (page value : List Char) : Prop :=
  ∃ earlier spelling later, spellings = earlier ++ spelling :: later ∧
    spelling.Captures page value ∧ value ≠ [] ∧
    ∀ other ∈ earlier, ∀ any, ¬ other.Captures page any

/-- The first spelling in the list that occurs has an empty address, and a later one has another. -/
def IsHidden (spellings : List Spelling) (page : List Char) : Prop :=
  ∃ earlier spelling later, spellings = earlier ++ spelling :: later ∧
    spelling.Captures page [] ∧ (∀ other ∈ earlier, ∀ any, ¬ other.Captures page any) ∧
    ∃ other ∈ later, ∃ value, other.Captures page value ∧ value ≠ []

theorem firstSpelled_eq_some_iff :
    firstSpelled spellings page = some v ↔ IsShownOf spellings page v := by
  simp only [firstSpelled, IsShownOf, Option.filter_eq_some_iff, List.findSome?_eq_some_iff,
    find_eq_some_iff, find_eq_none_iff, Bool.not_eq_true', List.isEmpty_eq_false_iff]
  constructor
  · rintro ⟨⟨earlier, spelling, later, h, hv, hearlier⟩, hne⟩
    exact ⟨earlier, spelling, later, h, hv, hne, hearlier⟩
  · rintro ⟨earlier, spelling, later, h, hv, hne, hearlier⟩
    exact ⟨⟨earlier, spelling, later, h, hv, hearlier⟩, hne⟩

theorem isBestOf_iff : IsBestOf spellings page v ↔
    spellings.findSome? (fun spelling => (spelling.find page).filter (!·.isEmpty)) = some v := by
  simp only [IsBestOf, List.findSome?_eq_some_iff, Option.filter_eq_some_iff, find_eq_some_iff,
    Option.filter_eq_none_iff, Bool.not_eq_true', List.isEmpty_eq_false_iff, and_assoc, ne_eq,
    not_not]

theorem IsBestOf.unique (h : IsBestOf spellings page v) (h' : IsBestOf spellings page u) :
    v = u :=
  Option.some.inj ((isBestOf_iff.1 h).symm.trans (isBestOf_iff.1 h'))

theorem IsShownOf.isBestOf (h : IsShownOf spellings page v) : IsBestOf spellings page v := by
  obtain ⟨earlier, spelling, later, hs, hv, hne, hearlier⟩ := h
  exact ⟨earlier, spelling, later, hs, hv, hne,
    fun other hother any hany => absurd hany (hearlier other hother any)⟩

theorem IsHidden.not_isShownOf (h : IsHidden spellings page) : ¬ IsShownOf spellings page v := by
  obtain ⟨earlier, spelling, later, hs, hempty, hearlier, -⟩ := h
  have hfirst : spellings.findSome? (·.find page) = some [] :=
    List.findSome?_eq_some_iff.2 ⟨earlier, spelling, later, hs, find_eq_some_iff.2 hempty,
      fun other hother => find_eq_none_iff.2 (hearlier other hother)⟩
  intro hshown
  have hspelled := firstSpelled_eq_some_iff.2 hshown
  rw [firstSpelled, hfirst] at hspelled
  cases hspelled

theorem IsHidden.exists_isBestOf (h : IsHidden spellings page) :
    ∃ value, IsBestOf spellings page value := by
  obtain ⟨earlier, spelling, later, rfl, -, -, other, hother, value, hvalue, hne⟩ := h
  simp only [isBestOf_iff, ← Option.isSome_iff_exists, List.findSome?_isSome_iff]
  refine ⟨other, by simp [hother], ?_⟩
  simp [find_eq_some_iff.2 hvalue, hne]

/-- The best address of a list is the one that is shown, or it is hidden. -/
theorem IsBestOf.isShownOf_or_isHidden (h : IsBestOf spellings page v) :
    IsShownOf spellings page v ∨ IsHidden spellings page := by
  obtain ⟨earlier, spelling, later, rfl, hv, hne, hearlier⟩ := h
  cases hfirst : earlier.findSome? (·.find page) with
  | none =>
    refine .inl ⟨earlier, spelling, later, rfl, hv, hne, fun other hother => ?_⟩
    exact find_eq_none_iff.1 (List.findSome?_eq_none_iff.1 hfirst other hother)
  | some empty =>
    obtain ⟨before, first, after, rfl, hempty, hbefore⟩ := List.findSome?_eq_some_iff.1 hfirst
    rw [find_eq_some_iff] at hempty
    obtain rfl := hearlier first (by simp) empty hempty
    refine .inr ⟨before, first, after ++ spelling :: later, by simp, hempty, fun other hother => ?_,
      spelling, by simp, v, hv, hne⟩
    exact find_eq_none_iff.1 (hbefore other hother)

theorem not_isBestOf (hnone : firstSpelled spellings page = none) (h : ¬ IsHidden spellings page)
    (value : List Char) : ¬ IsBestOf spellings page value := by
  intro hbest
  rcases hbest.isShownOf_or_isHidden with hshown | hidden
  · rw [firstSpelled_eq_some_iff.2 hshown] at hnone
    cases hnone
  · exact h hidden

/-! ### The film of a page -/

def unescapeUrl (value : List Char) : String := String.ofList (Text.replace ['\\', '/'] ['/'] value)

inductive IsBestFilm (page : List Char) : Option String → Prop where
  | high {value : List Char} : IsBestOf hdSpellings page value →
      IsBestFilm page (some (unescapeUrl value))
  | standard {value : List Char} : (∀ other, ¬ IsBestOf hdSpellings page other) →
      IsBestOf sdSpellings page value → IsBestFilm page (some (unescapeUrl value))
  | none : (∀ other, ¬ IsBestOf hdSpellings page other) →
      (∀ other, ¬ IsBestOf sdSpellings page other) → IsBestFilm page none

theorem IsBestOf.isBestFilm_iff (h : IsBestOf hdSpellings page v) {film : Option String} :
    IsBestFilm page film ↔ film = some (unescapeUrl v) := by
  constructor
  · intro hfilm
    cases hfilm with
    | high h' => rw [h'.unique h]
    | standard hnone _ => exact absurd h (hnone v)
    | none hnone _ => exact absurd h (hnone v)
  · rintro rfl
    exact .high h

theorem findVideoUrl_eq (page : String) :
    findVideoUrl page = ((firstSpelled hdSpellings (unescapePage page.toList)).or
      (firstSpelled sdSpellings (unescapePage page.toList))).map unescapeUrl :=
  congrArg (Option.map unescapeUrl) Option.orElse_eq_or

/-- An address that is taken from a page is not empty, and unescaping leaves something of it. -/
theorem ne_empty_of_findVideoUrl {page url : String} (h : findVideoUrl page = some url) :
    url ≠ "" := by
  rw [findVideoUrl_eq] at h
  obtain ⟨value, hvalue, rfl⟩ := Option.map_eq_some_iff.1 h
  have hne : value ≠ [] := by
    rw [Option.or_eq_some_iff, firstSpelled_eq_some_iff, firstSpelled_eq_some_iff] at hvalue
    rcases hvalue with ⟨_, _, _, _, _, hne, _⟩ | ⟨-, _, _, _, _, _, hne, _⟩ <;> exact hne
  intro hempty
  have hnil : Text.replace ['\\', '/'] ['/'] value = [] := String.ofList_eq_empty_iff.1 hempty
  exact Text.replace_ne_nil (by simp) (by simp) hne hnil

/-- The film that is found is the best one of the page, but for two kinds of pages: those on which
an empty address hides the best one in high definition, unless the one that is shown in standard
definition is the same; and those that have none in high definition, and on which an empty address
hides the best one in standard definition. -/
theorem isBestFilm_findVideoUrl_iff (text : String) :
    let page := unescapePage text.toList
    IsBestFilm page (findVideoUrl text) ↔
      (IsHidden hdSpellings page → ∃ best shown, IsBestOf hdSpellings page best ∧
        IsShownOf sdSpellings page shown ∧ unescapeUrl shown = unescapeUrl best) ∧
      (IsHidden sdSpellings page → ∃ best, IsBestOf hdSpellings page best) := by
  intro page
  rw [findVideoUrl_eq]
  cases hhigh : firstSpelled hdSpellings page with
  | some best =>
    have hbest := firstSpelled_eq_some_iff.1 hhigh
    exact iff_of_true (.high hbest.isBestOf)
      ⟨fun hidden => absurd hbest hidden.not_isShownOf, fun _ => ⟨best, hbest.isBestOf⟩⟩
  | none =>
    rw [Option.none_or]
    by_cases hidden : IsHidden hdSpellings page
    · obtain ⟨best, hbest⟩ := hidden.exists_isBestOf
      rw [hbest.isBestFilm_iff, Option.map_eq_some_iff]
      constructor
      · rintro ⟨shown, hshown, hsame⟩
        rw [firstSpelled_eq_some_iff] at hshown
        exact ⟨fun _ => ⟨best, shown, hbest, hshown, hsame⟩, fun _ => ⟨best, hbest⟩⟩
      · rintro ⟨hsame, -⟩
        obtain ⟨best', shown, hbest', hshown, hsame⟩ := hsame hidden
        exact ⟨shown, firstSpelled_eq_some_iff.2 hshown, hbest'.unique hbest ▸ hsame⟩
    · have hno := not_isBestOf hhigh hidden
      cases hstandard : firstSpelled sdSpellings page with
      | some shown =>
        have hshown := firstSpelled_eq_some_iff.1 hstandard
        exact iff_of_true (.standard hno hshown.isBestOf)
          ⟨fun h => absurd h hidden, fun h => absurd hshown h.not_isShownOf⟩
      | none =>
        constructor
        · rintro (_ | _ | ⟨-, hnone⟩)
          refine ⟨fun h => absurd h hidden, fun h => ?_⟩
          obtain ⟨best, hbest⟩ := h.exists_isBestOf
          exact absurd hbest (hnone best)
        · rintro ⟨-, hhidden⟩
          refine .none hno (not_isBestOf hstandard fun h => ?_)
          obtain ⟨best, hbest⟩ := hhidden h
          exact hno best hbest

/-- An empty address in high definition hides the one under the next key. -/
theorem not_isBestFilm_emptyKey :
    let text := "\"browser_native_hd_url\":\"\"," ++
      "\"playable_url_quality_hd\":\"https:\\/\\/v.test\\/hd.mp4\"," ++
      "\"playable_url\":\"https:\\/\\/v.test\\/sd.mp4\""
    findVideoUrl text = some "https://v.test/sd.mp4" ∧
      ¬ IsBestFilm (unescapePage text.toList) (findVideoUrl text) := by
  intro text
  have hfound : findVideoUrl text = some "https://v.test/sd.mp4" := by decide +kernel
  have hbest : IsBestOf hdSpellings (unescapePage text.toList)
      "https:\\/\\/v.test\\/hd.mp4".toList := isBestOf_iff.2 (by decide +kernel)
  refine ⟨hfound, ?_⟩
  rw [hbest.isBestFilm_iff, hfound]
  decide +kernel

end MediaRelay.Extract
