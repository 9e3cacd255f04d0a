import Mathlib.Data.List.Infix
import Mathlib.Data.List.Pairwise
import MediaRelay.Platform.Registry
import MediaRelay.Proofs.Text.Search
/-! Which platform a link goes to. A host lies within a domain when the labels of the domain are the
last ones of its own, so a name that merely ends in the same letters does not count. Platforms of
which no domain lies within one of another's are never in doubt: at most one of them serves a link,
and the order in which they are asked does not matter. -/

namespace MediaRelay.Platform

open Web

variable {τ : Type} {link : String} {host domain : List Char}

def labels (host : List Char) : List (List Char) := Text.splitAt '.' host

theorem isWithin_iff : isWithin host domain = true ↔ labels domain <:+ labels host := by
  rw [labels, labels, Text.splitAt_isSuffix_iff, isWithin]
  simp

/-- The letters alone would be those of another host. -/
example : isWithin "www.iesdouyin.com".toList "douyin.com".toList = false := by decide

/-- The link can be read, and its host lies within the domain. -/
def LeadsTo (link domain : String) : Prop :=
  ∃ u host, Url.parse (Text.trim link.toList) = some u ∧ u.host = some host ∧
    labels domain.toList <:+ labels (host.map Char.toLower)

theorem leadsTo_iff {domain : String} :
    LeadsTo link domain ↔ ∃ host ∈ hostOf? link, labels domain.toList <:+ labels host := by
  unfold LeadsTo hostOf?
  cases hu : Url.parse (Text.trim link.toList) with
  | none => simp
  | some u => cases hhost : u.host <;> simp [hhost]

theorem serves_iff {p : Platform τ} :
    p.serves link = true ↔ ∃ domain ∈ p.hosts, LeadsTo link domain := by
  simp only [leadsTo_iff, serves, matchesHost]
  cases hostOf? link with
  | none => simp
  | some host => simp [isWithin_iff]

/-! ### No two platforms for one link -/

/-- No domain of one platform lies within a domain of the other. -/
def IsApart (p q : Platform τ) : Prop :=
  ∀ a ∈ p.hosts, ∀ b ∈ q.hosts,
    ¬ labels a.toList <:+ labels b.toList ∧ ¬ labels b.toList <:+ labels a.toList

/-- Of two domains that a link leads to, one lies within the other. -/
theorem IsApart.not_serves {p q : Platform τ} (h : p.IsApart q) (hp : p.serves link = true) :
    q.serves link = false := by
  by_contra hq
  rw [Bool.not_eq_false] at hq
  obtain ⟨a, ha, hlink⟩ := serves_iff.1 hp
  obtain ⟨b, hb, hlink'⟩ := serves_iff.1 hq
  obtain ⟨host, hhost, hsuffix⟩ := leadsTo_iff.1 hlink
  obtain ⟨host', hhost', hsuffix'⟩ := leadsTo_iff.1 hlink'
  obtain rfl : host = host' := Option.mem_unique hhost hhost'
  obtain ⟨hab, hba⟩ := h a ha b hb
  rcases List.suffix_or_suffix_of_suffix hsuffix hsuffix' with hin | hin
  · exact hab hin
  · exact hba hin

variable {platforms order : List (Platform τ)}

theorem length_serving_le (h : platforms.Pairwise IsApart) (link : String) :
    (platforms.filter (·.serves link)).length ≤ 1 := by
  have hserving := h.filter (·.serves link)
  cases hl : platforms.filter (·.serves link) with
  | nil => exact Nat.zero_le 1
  | cons p rest =>
    cases rest with
    | nil => exact Nat.le_refl 1
    | cons q rest =>
      rw [hl] at hserving
      have hapart : p.IsApart q := List.rel_of_pairwise_cons hserving (.head _)
      have hserves : ∀ r ∈ p :: q :: rest, r.serves link = true := by
        intro r hr
        rw [← hl] at hr
        exact (List.mem_filter.1 hr).2
      have hq : q.serves link = false := hapart.not_serves (hserves p (.head _))
      rw [hserves q (.tail _ (.head _))] at hq
      cases hq

/-- The platform that is found is the one that serves the link. -/
theorem resolve?_eq_some_iff (h : platforms.Pairwise IsApart) {link : String} {p : Platform τ} :
    resolve? platforms link = some p ↔ p ∈ platforms ∧ p.serves link = true := by
  constructor
  · intro hfound
    obtain ⟨hserves, -⟩ := List.find?_eq_some_iff_append.1 hfound
    exact ⟨List.mem_of_find?_eq_some hfound, hserves⟩
  · rintro ⟨hmem, hserves⟩
    have hserving : p ∈ platforms.filter (·.serves link) := List.mem_filter.2 ⟨hmem, hserves⟩
    have hle := length_serving_le h link
    rw [resolve?, ← List.head?_filter]
    cases hl : platforms.filter (·.serves link) with
    | nil =>
      rw [hl] at hserving
      cases hserving
    | cons q rest =>
      rw [hl, List.length_cons] at hle
      obtain rfl : rest = [] := List.length_eq_zero_iff.1 (by omega)
      rw [hl, List.mem_singleton] at hserving
      rw [hserving, List.head?_cons]

/-- Where at most one platform serves the link, they can be asked in any order. -/
theorem resolve?_eq_of_perm (h : platforms.Pairwise IsApart) (horder : order.Perm platforms)
    (link : String) : resolve? order link = resolve? platforms link := by
  have hserving : (order.filter (·.serves link)).Perm (platforms.filter (·.serves link)) :=
    horder.filter _
  have hle := length_serving_le h link
  rw [resolve?, resolve?, ← List.head?_filter, ← List.head?_filter]
  cases hl : platforms.filter (·.serves link) with
  | nil =>
    rw [hl, List.perm_nil] at hserving
    rw [hserving]
  | cons p rest =>
    rw [hl, List.length_cons] at hle
    obtain rfl : rest = [] := List.length_eq_zero_iff.1 (by omega)
    rw [hl, List.perm_singleton] at hserving
    rw [hserving]

/-! ### The platforms that are always there -/

theorem hosts_defaults : (defaults : List (Platform τ)).map (·.hosts) =
    [["instagram.com", "instagr.am"], ["tiktok.com"], ["douyin.com", "iesdouyin.com"],
      ["facebook.com", "fb.watch"]] := by
  simp only [defaults, instagram, tiktok, douyin, facebook, named, List.map_cons, List.map_nil]
  decide +kernel

theorem pairwise_defaults : (defaults : List (Platform τ)).Pairwise IsApart := by
  have hhosts : ((defaults : List (Platform τ)).map (·.hosts)).Pairwise fun l m =>
      ∀ a ∈ l, ∀ b ∈ m,
        ¬ labels a.toList <:+ labels b.toList ∧ ¬ labels b.toList <:+ labels a.toList := by
    rw [hosts_defaults]
    decide +kernel
  have hplatforms := List.pairwise_map.1 hhosts
  exact hplatforms

/-- Links are told apart by the labels of their hosts: a platform serves those that lead to one of
its domains, and of the platforms that are always there at most one serves a link. That one is found, in
whatever order they were registered. -/
theorem routes_by_labels (link : String) :
    (∀ p : Platform τ, p.serves link = true ↔
      ∃ u host, Url.parse (Text.trim link.toList) = some u ∧ u.host = some host ∧
        ∃ domain ∈ p.hosts, labels domain.toList <:+ labels (host.map Char.toLower)) ∧
    ((defaults : List (Platform τ)).filter (·.serves link)).length ≤ 1 ∧
    ∀ order : List (Platform τ), order.Perm defaults →
      resolve? order link = resolve? defaults link ∧
        ∀ p, resolve? order link = some p ↔ p ∈ defaults ∧ p.serves link = true := by
  refine ⟨fun p => ?_, length_serving_le pairwise_defaults link, fun order horder => ?_⟩
  · rw [serves_iff]
    constructor
    · rintro ⟨domain, hdomain, u, host, hu, hhost, hlabels⟩
      exact ⟨u, host, hu, hhost, domain, hdomain, hlabels⟩
    · rintro ⟨u, host, hu, hhost, domain, hdomain, hlabels⟩
      exact ⟨domain, hdomain, u, host, hu, hhost, hlabels⟩
  · have hsame := resolve?_eq_of_perm pairwise_defaults horder link
    refine ⟨hsame, fun p => ?_⟩
    rw [hsame]
    exact resolve?_eq_some_iff pairwise_defaults

end MediaRelay.Platform
