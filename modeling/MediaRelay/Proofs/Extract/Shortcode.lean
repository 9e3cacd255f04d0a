import Mathlib.Data.Bool.AllAny
import MediaRelay.Extract.Shortcode
import MediaRelay.Proofs.Web.Path
/-! The code of a post is read back from every link to the post, whatever segments stand before its
word, and whatever query or fragment follows its path. -/

namespace MediaRelay.Extract

open Web

/-! ### Links to posts -/

def codeChars : List Char :=
  "ABCDEFGHIJKLMNOPQRSTUVWXYZabcdefghijklmnopqrstuvwxyz0123456789_-".toList

def announcements : List String := ["p", "reel", "tv", "reels"]

structure PostLink where
  /-- the segments before the word -/
  before : List String := []
  word : String
  code : String
  /-- whether a slash ends the path -/
  isClosed : Bool := false
  /-- a query or a fragment, or both -/
  extra : String := ""
  before_chars : ∀ s ∈ before, ∀ c ∈ s.toList, c ∈ '.' :: codeChars
  before_other : ∀ s ∈ before, s ∉ "." :: ".." :: announcements
  word_mem : word ∈ announcements
  code_ne : code ≠ ""
  code_chars : ∀ c ∈ code.toList, c ∈ codeChars
  extra_head : ∀ c ∈ extra.toList.head?, c = '?' ∨ c = '#'

namespace PostLink

def text (l : PostLink) : String :=
  "https://www.instagram.com/" ++ String.join (l.before.map (· ++ "/")) ++ l.word ++ "/" ++ l.code ++
    (if l.isClosed then "/" else "") ++ l.extra

/-- The segments of the path; a slash at its end is followed by an empty one. -/
def path (l : PostLink) : List (List Char) :=
  l.before.map String.toList ++ l.word.toList :: l.code.toList :: (if l.isClosed then [[]] else [])

end PostLink

/-! ### What codes and words are made of -/

theorem plain_of_mem {c : Char} (h : c ∈ '.' :: codeChars) :
    (Percent.inPath c = false ∧ Url.isSlash true c = false) ∧
      c.toLower ≠ '%' ∧ (c.toLower = '.' → c = '.') := by
  have hall : ∀ c ∈ '.' :: codeChars, (Percent.inPath c = false ∧ Url.isSlash true c = false) ∧
      c.toLower ≠ '%' ∧ (c.toLower = '.' → c = '.') :=
    List.all_iff_forall_prop.1 (by decide +kernel)
  exact hall c h

/-- Only the two segments that are nothing but dots are worked out. -/
theorem isSegment_of_mem {s : List Char} (h : ∀ c ∈ s, c ∈ '.' :: codeChars) (hdot : s ≠ ['.'])
    (hdots : s ≠ ['.', '.']) : Url.IsSegment s := by
  have hpercent : '%' ∉ s.map Char.toLower := by
    intro hmem
    obtain ⟨c, hc, hlower⟩ := List.mem_map.1 hmem
    exact (plain_of_mem (h c hc)).2.1 hlower
  have hlower : ∀ t : List Char, '%' ∈ t → s.map Char.toLower ≠ t := by
    rintro t ht rfl
    exact hpercent ht
  constructor
  · intro c hc
    exact (plain_of_mem (h c hc)).1
  · have hescaped := hlower "%2e".toList (by decide)
    simp only [Url.isDot, hdot, hescaped, decide_false, Bool.or_false]
  · have hplain : s.map Char.toLower ≠ ['.', '.'] := by
      intro heq
      obtain ⟨c, d, rfl⟩ : ∃ c d, s = [c, d] := by
        apply List.length_eq_two.1
        rw [← List.length_map (f := Char.toLower), heq]
        rfl
      obtain ⟨hc, hd⟩ : c.toLower = '.' ∧ d.toLower = '.' := by simpa using heq
      apply hdots
      rw [(plain_of_mem (h c (by simp))).2.2 hc, (plain_of_mem (h d (by simp))).2.2 hd]
    apply List.any_eq_false.2
    intro dots hmem
    simp only [decide_eq_true_eq]
    intro heq
    rcases List.mem_cons.1 hmem with rfl | hmem
    · exact hplain heq.symm
    · have hescaped : '%' ∈ dots.toList := by
        have hall : ∀ t ∈ [".%2e", "%2e.", "%2e%2e"], '%' ∈ t.toList := by decide
        exact hall dots hmem
      exact hlower _ hescaped heq.symm

theorem mem_postWords_iff {word : String} : word.toList ∈ postWords ↔ word ∈ announcements := by
  have hwords : postWords = announcements.map String.toList := by decide
  rw [hwords]
  constructor
  · intro h
    obtain ⟨other, hother, heq⟩ := List.mem_map.1 h
    rwa [← String.toList_inj.1 heq]
  · exact List.mem_map_of_mem

/-- The first post word decides. -/
theorem afterPostWord_append {before : List (List Char)} {word code : List Char}
    (rest : List (List Char)) (hbefore : ∀ s ∈ before, s ∉ postWords) (hword : word ∈ postWords) :
    afterPostWord (before ++ word :: code :: rest) = some code := by
  induction before with
  | nil =>
    rw [List.nil_append, afterPostWord, if_pos (List.contains_iff_mem.2 hword)]
  | cons s before ih =>
    obtain ⟨hs, hbefore⟩ := List.forall_mem_cons.1 hbefore
    have hskip : ∀ next more, afterPostWord (s :: next :: more) = afterPostWord (next :: more) := by
      intro next more
      rw [afterPostWord, if_neg fun h => hs (List.contains_iff_mem.1 h)]
    rw [← ih hbefore]
    cases before with
    | nil => exact hskip _ _
    | cons next before => exact hskip _ _

namespace PostLink

variable (l : PostLink)

/-- Each segment before the word ends with its slash; a path begins with one instead. -/
theorem slash_append (segments : List String) (t : List Char) :
    '/' :: ((segments.map (· ++ "/")).flatMap String.toList ++ t) =
      Url.pathOf (segments.map String.toList) ++ '/' :: t := by
  induction segments with
  | nil => rfl
  | cons s segments ih =>
    rw [List.map_cons, List.flatMap_cons, String.toList_append, List.append_assoc, List.append_assoc]
    change '/' :: (s.toList ++ '/' :: (_ ++ t)) = ('/' :: s.toList ++ Url.pathOf _) ++ _
    rw [ih, List.append_assoc]
    rfl

theorem pathOf_path : Url.pathOf l.path =
    Url.pathOf (l.before.map String.toList) ++ '/' :: (l.word.toList ++ '/' :: (l.code.toList ++
      (if l.isClosed then "/" else "").toList)) := by
  rw [path, Url.pathOf, List.flatMap_append]
  split_ifs <;> simp [Url.pathOf]

theorem toList_text : l.text.toList =
    "https".toList ++ "://".toList ++ "www.instagram.com".toList ++
      (Url.pathOf l.path ++ l.extra.toList) := by
  have hfront : "https://www.instagram.com/".toList =
      "https".toList ++ "://".toList ++ "www.instagram.com".toList ++ ['/'] := rfl
  have hpath : Url.pathOf l.path ++ l.extra.toList =
      ['/'] ++ ((l.before.map (· ++ "/")).flatMap String.toList ++ (l.word.toList ++ ("/".toList ++
        (l.code.toList ++ ((if l.isClosed then "/" else "").toList ++ l.extra.toList))))) := by
    rw [pathOf_path, List.append_assoc, List.cons_append, ← slash_append, List.append_assoc,
      List.cons_append, List.append_assoc]
    rfl
  -- Of any texts, since the literals would be taken apart to be compared.
  have hjoin : ∀ (front slash : String) (parts : List String) (closing : String),
      (front ++ String.join parts ++ l.word ++ slash ++ l.code ++ closing ++ l.extra).toList =
        front.toList ++ (parts.flatMap String.toList ++ (l.word.toList ++ (slash.toList ++
          (l.code.toList ++ (closing.toList ++ l.extra.toList))))) := by
    intro front slash parts closing
    simp only [String.toList_append, String.toList_join, List.append_assoc]
  rw [hpath, ← List.append_assoc, ← hfront]
  exact hjoin _ _ _ _

theorem segment_ne {s t : String} (hs : s ∈ l.before) (ht : t ∈ "." :: ".." :: announcements) :
    s.toList ≠ t.toList := by
  intro h
  apply l.before_other s hs
  rwa [String.toList_inj.1 h]

theorem isSegment_word : Url.IsSegment l.word.toList := by
  have hall : ∀ w ∈ announcements, w.toList.all (· ∈ '.' :: codeChars) = true ∧
      w.toList ≠ ['.'] ∧ w.toList ≠ ['.', '.'] := by decide +kernel
  obtain ⟨hchars, hdot, hdots⟩ := hall l.word l.word_mem
  exact isSegment_of_mem (List.all_iff_forall_prop.1 hchars) hdot hdots

theorem isSegment_code : Url.IsSegment l.code.toList := by
  have hdot : '.' ∉ l.code.toList := by
    intro h
    exact absurd (l.code_chars _ h) (by decide)
  apply isSegment_of_mem
  · intro c hc
    exact .tail _ (l.code_chars c hc)
  all_goals
    intro h
    exact hdot (by simp [h])

theorem isSegment_path : ∀ s ∈ l.path, Url.IsSegment s := by
  intro s hs
  simp only [path, List.mem_append, List.mem_map, List.mem_cons] at hs
  rcases hs with ⟨t, ht, rfl⟩ | rfl | rfl | hs
  · exact isSegment_of_mem (l.before_chars t ht) (l.segment_ne ht (by decide : "." ∈ _))
      (l.segment_ne ht (by decide : ".." ∈ _))
  · exact l.isSegment_word
  · exact l.isSegment_code
  · obtain rfl : s = [] := by
      split_ifs at hs
      · exact List.mem_singleton.1 hs
      · cases hs
    exact ⟨by simp, rfl, rfl⟩

theorem isAuthority_instagram : Url.IsAuthority "www.instagram.com".toList where
  ne_nil := by decide
  plain := List.all_iff_forall_prop.1 (by decide +kernel)

theorem segments?_text : (Url.parse l.text.toList).bind (·.segments?) = some l.path := by
  let page : Url := { scheme := "https".toList, host := some "www.instagram.com".toList }
  have hauthority : Url.parseAuthority "https".toList "www.instagram.com".toList = some page := by
    decide +kernel
  have hne : l.path ≠ [] := by simp [path]
  rw [toList_text]
  exact Url.segments?_parse_link (.inr rfl) isAuthority_instagram hauthority rfl hne l.isSegment_path
    l.extra_head

/-- The segments of a link to a post, in so far as they are not empty. -/
theorem pathSegments_text : pathSegments l.text =
    (l.before.map String.toList).filter (!·.isEmpty) ++ [l.word.toList, l.code.toList] := by
  have hword : l.word.toList ≠ [] := by
    have hall : ∀ w ∈ announcements, w.toList ≠ [] := by decide
    exact hall l.word l.word_mem
  have hcode : l.code.toList ≠ [] := by
    intro h
    exact l.code_ne (String.toList_eq_nil_iff.1 h)
  rw [pathSegments, segments?_text]
  dsimp only
  rw [path, List.filter_append]
  split_ifs <;> simp [hword, hcode]

/-- The code of a post is read back from a link to it. -/
theorem shortcode_text : shortcode l.text = some l.code := by
  have hbefore : ∀ s ∈ (l.before.map String.toList).filter (!·.isEmpty), s ∉ postWords := by
    intro s hs
    obtain ⟨t, ht, rfl⟩ := List.mem_map.1 (List.mem_filter.1 hs).1
    intro hmem
    exact l.before_other t ht (.tail _ (.tail _ (mem_postWords_iff.1 hmem)))
  rw [shortcode, pathSegments_text,
    afterPostWord_append [] hbefore (mem_postWords_iff.2 l.word_mem)]
  exact congrArg some String.ofList_toList

/-- A link with an empty segment before the word, whose query and fragment name other posts. -/
def amongOthers : PostLink where
  before := ["some.one", ""]
  word := "reels"
  code := "C-0_d"
  isClosed := true
  extra := "?u=/p/X/#/tv/Y"
  before_chars := by
    have hall : ∀ s ∈ ["some.one", ""], s.toList.all (· ∈ '.' :: codeChars) = true := by
      decide +kernel
    exact fun s hs => List.all_iff_forall_prop.1 (hall s hs)
  before_other := by decide
  word_mem := by decide
  code_ne := by decide
  code_chars := List.all_iff_forall_prop.1 (by decide +kernel)
  extra_head := by
    intro c hc
    obtain rfl : '?' = c := Option.some.inj hc
    exact .inl rfl

theorem shortcode_text_amongOthers :
    amongOthers.text = "https://www.instagram.com/some.one//reels/C-0_d/?u=/p/X/#/tv/Y" ∧
      shortcode amongOthers.text = some "C-0_d" :=
  ⟨by decide +kernel, shortcode_text amongOthers⟩

end PostLink
end MediaRelay.Extract
