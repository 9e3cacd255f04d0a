import Mathlib.Data.List.Basic
import MediaRelay.Extract.Tiktok
/-! Which pictures of a show are sent. A picture can have an address for its shown form and one of
its own, and either can be empty. An empty address of the shown form eclipses the picture's own:
such a picture is lost, although it could be had. No other picture is lost, and the order stays. -/

namespace MediaRelay.Extract.Tiktok

/-- The first address of the shown form and the first of its own, as far as there are any. -/
def Picture.candidates (p : Picture) : List String :=
  (p.shown.bind (·.head?)).toList ++ p.own.head?.toList

/-- What a picture has to contribute: its first candidate that is not empty. -/
def Picture.usable? (p : Picture) : Option String := p.candidates.find? (· ≠ "")

/-- An empty address of the shown form stands before one of its own that is not empty. -/
def Picture.isEclipsed (p : Picture) : Bool :=
  p.shown.bind (·.head?) == some "" && p.own.head?.any (· ≠ "")

namespace Post

def usableUrls (post : Post) : List String := (post.pictures.getD []).filterMap Picture.usable?

def filmUrl? (post : Post) : Option String := post.film.bind (·.head?)

def uneclipsed (post : Post) : Post :=
  { post with pictures := post.pictures.map (·.filter (!·.isEclipsed)) }

/-- What a post gives when no picture is lost: what its pictures have to contribute; the film, where
they have nothing; a failure, where there is no film either. -/
inductive IsLossless (post : Post) : Except MediaError (List Item) → Prop where
  | pictures : post.usableUrls ≠ [] → IsLossless post (.ok (post.usableUrls.map .image))
  | film {url : String} : post.usableUrls = [] → post.filmUrl? = some url →
      IsLossless post (.ok [.video url])
  | nothing : post.usableUrls = [] → post.filmUrl? = none →
      IsLossless post (.error (.extractionFailed "no video or images found"))

end Post

variable {p : Picture} {post : Post} {answer : Except MediaError (List Item)}

/-- Of a picture that is not eclipsed, what is taken is what it has to contribute. -/
theorem Picture.filter_url? (p : Picture) :
    p.url?.filter (· ≠ "") = if p.isEclipsed then none else p.usable? := by
  unfold Picture.url? Picture.isEclipsed Picture.usable? Picture.candidates
  cases p.shown.bind (·.head?) with
  | none => cases p.own.head? <;> simp [Option.filter]
  | some shown =>
    by_cases hshown : shown = ""
    · cases p.own.head? with
      | none => simp [hshown]
      | some own => by_cases hown : own = "" <;> simp [hshown, hown]
    · simp [hshown]

theorem Picture.isSome_usable? (h : p.isEclipsed = true) : p.usable?.isSome := by
  rw [Picture.isEclipsed, Bool.and_eq_true] at h
  obtain ⟨own, hown, hne⟩ := (Option.any_eq_true _ _).1 h.2
  rw [Picture.usable?, List.find?_isSome]
  exact ⟨own, by simp [Picture.candidates, hown], hne⟩

theorem pictures_uneclipsed (post : Post) :
    post.uneclipsed.pictures.getD [] = (post.pictures.getD []).filter (!·.isEclipsed) := by
  unfold Post.uneclipsed
  cases post.pictures with
  | none => rfl
  | some pictures => rfl

theorem pictureUrls_eq (post : Post) : post.pictureUrls = post.uneclipsed.usableUrls := by
  rw [Post.pictureUrls, Post.usableUrls, pictures_uneclipsed, List.filter_filterMap,
    List.filterMap_filter]
  refine List.filterMap_congr fun p _ => ?_
  rw [Picture.filter_url?]
  cases p.isEclipsed <;> rfl

theorem length_usableUrls (post : Post) :
    post.usableUrls.length =
      post.uneclipsed.usableUrls.length + (post.pictures.getD []).countP Picture.isEclipsed := by
  rw [Post.usableUrls, Post.usableUrls, pictures_uneclipsed]
  induction post.pictures.getD [] with
  | nil => rfl
  | cons p pictures ih =>
    cases hp : p.isEclipsed with
    | true =>
      obtain ⟨url, hurl⟩ := Option.isSome_iff_exists.1 (Picture.isSome_usable? hp)
      simp [hp, hurl, ih]
      omega
    | false =>
      cases hurl : p.usable? with
      | none => simp [hp, hurl, ih]
      | some url =>
        simp [hp, hurl, ih]
        omega

theorem uneclipsed_of_forall (h : ∀ p ∈ post.pictures.getD [], p.isEclipsed = false) :
    post.uneclipsed = post := by
  rcases post with ⟨pictures, film⟩
  cases pictures with
  | none => rfl
  | some pictures =>
    have hall : pictures.filter (!·.isEclipsed) = pictures :=
      List.filter_eq_self.2 fun p hp => by simp [h p hp]
    simp [Post.uneclipsed, hall]

def imageUrls : Except MediaError (List Item) → List String
  | .ok items => (items.filter (·.kind = .image)).map (·.url)
  | .error _ => []

/-- Pictures are told from films, so an answer that lost none tells what there was to contribute. -/
theorem Post.IsLossless.imageUrls_eq (h : post.IsLossless answer) :
    imageUrls answer = post.usableUrls := by
  cases h with
  | pictures _ =>
    generalize post.usableUrls = urls
    induction urls with
    | nil => rfl
    | cons url urls ih => simpa [imageUrls, Item.image] using ih
  | film hnil _ => rw [hnil]; rfl
  | nothing hnil _ => rw [hnil]; rfl

theorem isLossless_uneclipsed (post : Post) (later : List Post) :
    post.uneclipsed.IsLossless (itemsOf (post :: later)) := by
  have hfilm : post.uneclipsed.filmUrl? = post.film.bind (·.head?) := rfl
  unfold itemsOf
  simp only [List.head?_cons]
  cases hurls : post.pictureUrls with
  | nil =>
    rw [pictureUrls_eq] at hurls
    cases hurl : post.film.bind (·.head?) with
    | none => exact .nothing hurls (hfilm.trans hurl)
    | some url => exact .film hurls (hfilm.trans hurl)
  | cons url urls =>
    rw [pictureUrls_eq] at hurls
    have h : post.uneclipsed.IsLossless _ := .pictures (by simp [hurls])
    rwa [hurls] at h

/-- A feed gives what its first post would give without its eclipsed pictures, whatever posts come
after it. So no picture is lost if and only if none is eclipsed. -/
theorem isLossless_itemsOf_iff (post : Post) (later : List Post) :
    post.uneclipsed.IsLossless (itemsOf (post :: later)) ∧
      (post.IsLossless (itemsOf (post :: later)) ↔
        ∀ p ∈ post.pictures.getD [], p.isEclipsed = false) := by
  have hseen := isLossless_uneclipsed post later
  refine ⟨hseen, ?_, ?_⟩
  · intro hall
    have hlength := length_usableUrls post
    rw [← hall.imageUrls_eq, ← hseen.imageUrls_eq] at hlength
    have hnone : (post.pictures.getD []).countP Picture.isEclipsed = 0 := by omega
    simpa using List.countP_eq_zero.1 hnone
  · intro h
    rwa [uneclipsed_of_forall h] at hseen

/-- A picture whose own address stands behind an empty one, and one that has an address. -/
def halfBlank : Post where
  pictures := some [⟨some [""], ["https://img.test/1.jpg"]⟩, ⟨some ["https://img.test/2.jpg"], []⟩]
  film := none

/-- The first of the two pictures is lost. -/
theorem not_isLossless_halfBlank : ¬ halfBlank.IsLossless (itemsOf [halfBlank]) := by
  intro h
  exact absurd h.imageUrls_eq (by decide +kernel)

end MediaRelay.Extract.Tiktok
