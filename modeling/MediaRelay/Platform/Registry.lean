import MediaRelay.Extract.Instagram
import MediaRelay.Extract.Tiktok
import MediaRelay.Extract.Douyin
import MediaRelay.Extract.Facebook
import MediaRelay.Platform.Host
/-! Which platform a link belongs to. Platforms are asked in the order in which they were registered. -/

namespace MediaRelay

structure Platform (τ : Type) where
  name : String
  /-- in lower case -/
  hosts : List String
  extract : String → Job τ (List Item)

namespace Platform

variable {τ : Type}

/-- A platform whose hosts are given in any letter case. -/
def named (name : String) (hosts : List String) (extract : String → Job τ (List Item)) : Platform τ :=
  ⟨name, hosts.map String.toLower, extract⟩

def serves (p : Platform τ) (link : String) : Bool := matchesHost link p.hosts

def instagram : Platform τ := named "instagram" ["instagram.com", "instagr.am"] (Extract.Instagram.fetch {})

def tiktok : Platform τ := named "tiktok" ["tiktok.com"] Extract.Tiktok.fetch

def douyin : Platform τ :=
  named "douyin" ["douyin.com", "iesdouyin.com"] (Extract.Douyin.fetch Extract.Douyin.service)

def facebook : Platform τ := named "facebook" ["facebook.com", "fb.watch"] Extract.Facebook.fetch

def defaults : List (Platform τ) := [instagram, tiktok, douyin, facebook]

def resolve? (platforms : List (Platform τ)) (link : String) : Option (Platform τ) :=
  platforms.find? (·.serves link)

def itemsOf (platforms : List (Platform τ)) (link : String) : Job τ (List Item) :=
  match resolve? platforms link with
  | none => Job.fail .unsupportedPlatform
  | some p => p.extract link

end Platform
end MediaRelay
