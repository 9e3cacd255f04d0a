import MediaRelay.Platform.Host
import MediaRelay.Proofs.Text.Spaced
import MediaRelay.Proofs.Web.Url
/-! The host of a link, and with it the platform, comes from what stands before the path. -/

namespace MediaRelay

namespace Platform

open Web

/-- What may stand between the slashes and the path of a link: neither a blank nor a control, nor
what ends it. -/
def isAuthorityChar (c : Char) : Bool :=
  !(c = '/' || c = '\\' || c = '?' || c = '#' || Text.isBlank c || c.toNat < 0x20)

theorem of_isAuthorityChar {c : Char} (h : isAuthorityChar c = true) :
    Text.isBlank c = false ∧ Url.endsAuthority true c = false ∧ Url.isEdge c = false := by
  simp only [isAuthorityChar, Bool.not_eq_true', Bool.or_eq_false_iff, decide_eq_false_iff_not] at h
  obtain ⟨⟨⟨⟨⟨hslash, hback⟩, hquery⟩, hfragment⟩, hblank⟩, hcontrol⟩ := h
  have hspace : c.toNat ≠ 0x20 := by
    intro hc
    simp [Text.isBlank, hc] at hblank
  have hedge : ¬ c.toNat ≤ 0x20 := by omega
  exact ⟨hblank, by simp [Url.endsAuthority, Url.isSlash, hslash, hback, hquery, hfragment],
    decide_eq_false hedge⟩

/-- The host of a link is that of its authority, whatever follows. -/
theorem hostOf?_link {scheme a t : String} (hscheme : scheme = "http" ∨ scheme = "https")
    (hne : a ≠ "") (ha : a.toList.all isAuthorityChar = true) (ht : Url.IsTail t.toList) :
    hostOf? (scheme ++ "://" ++ a ++ t) =
      (Url.parseAuthority scheme.toList a.toList).bind fun u =>
        u.host.map (·.map Char.toLower) := by
  have hchar : ∀ c ∈ a.toList, Text.isBlank c = false ∧ Url.endsAuthority true c = false ∧
      Url.isEdge c = false := by
    intro c hc
    exact of_isAuthorityChar (List.all_eq_true.1 ha c hc)
  have hblank : ∀ c ∈ scheme.toList ++ "://".toList ++ a.toList, Text.isBlank c = false := by
    intro c hc
    rcases List.mem_append.1 hc with hc | hc
    · have hall : (scheme.toList ++ "://".toList).all (!Text.isBlank ·) = true := by
        rcases hscheme with rfl | rfl <;> decide
      simpa using List.all_eq_true.1 hall c hc
    · exact (hchar c hc).1
  have hauthority : Url.IsAuthority a.toList := by
    constructor
    · simpa using hne
    · intro c hc
      exact (hchar c hc).2
  have htail : Url.IsTail (Text.trimEnd t.toList) := ht.of_isPrefix (List.rdropWhile_prefix _ _)
  have hscheme' : scheme.toList = "http".toList ∨ scheme.toList = "https".toList :=
    hscheme.imp (congrArg String.toList) (congrArg String.toList)
  rw [hostOf?, String.toList_append, String.toList_append, String.toList_append,
    Text.trim_append (by simp) hblank, Url.parse_link hscheme' hauthority htail]
  cases Url.parseAuthority scheme.toList a.toList with
  | none => rfl
  | some u => rw [Option.map_some, Option.bind_some, Option.bind_some, Url.host_withTail]

/-- Links of the web with the same scheme and the same text before the path, query or fragment
belong to the same platforms. -/
theorem matchesHost_eq_of_isTail {scheme a t₁ t₂ : String}
    (hscheme : scheme = "http" ∨ scheme = "https") (hne : a ≠ "")
    (ha : a.toList.all isAuthorityChar = true) (h₁ : Url.IsTail t₁.toList)
    (h₂ : Url.IsTail t₂.toList) (hosts : List String) :
    matchesHost (scheme ++ "://" ++ a ++ t₁) hosts =
      matchesHost (scheme ++ "://" ++ a ++ t₂) hosts := by
  unfold matchesHost
  rw [hostOf?_link hscheme hne ha h₁, hostOf?_link hscheme hne ha h₂]

/-- A link with a user, a password and a port: what follows the authority names other hosts in many
ways, and does not count. -/
theorem matchesHost_eq_of_isTail_instagram :
    let a := "tiktok.com:p%40ss@WWW.iNsTaGrAm.com:443"
    let t := "?/\\..//\t@evil.test:80/%2e%2E/[::1]?u=https://fb.watch# é\n"
    Url.IsTail t.toList ∧
      matchesHost ("https" ++ "://" ++ a ++ t) ["instagram.com", "fb.watch"] =
        matchesHost ("https" ++ "://" ++ a ++ "") ["instagram.com", "fb.watch"] := by
  intro a t
  have ha : a.toList.all isAuthorityChar = true := by decide +kernel
  have ht : Url.IsTail t.toList := by decide +kernel
  exact ⟨ht, matchesHost_eq_of_isTail (.inr rfl) (by decide) ha ht (by decide) _⟩

end Platform

end MediaRelay
