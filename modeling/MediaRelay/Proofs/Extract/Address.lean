import MediaRelay.Proofs.Platform.Extraction
import MediaRelay.Proofs.Extract.VideoUrl
import MediaRelay.Proofs.Json.Decode
/-! Which items have no address. What a platform leaves out of its answer stands for an empty text,
so an answer can be bare: it names a film or a picture without saying where it is. Instagram and
TikTok hand out such items; of Douyin and Facebook there are none. -/

namespace MediaRelay.Extract

variable {τ : Type}

inductive Answer where
  | instagram (post : Option Instagram.Post)
  | tiktok (feed : List Tiktok.Post)
  | douyin (detail : Douyin.Answer)
  | facebook (page : Reply)

inductive Instagram.Node.IsBare (n : Node) : Prop where
  | film : n.isVideo = true → n.videoUrl = "" → n.IsBare
  | picture : n.isVideo = false → n.displayUrl = "" → n.IsBare

namespace Answer

def items : Answer → Except MediaError (List Item)
  | instagram post => Instagram.itemsOf post
  | tiktok feed => Tiktok.itemsOf feed
  | douyin detail => Douyin.itemsOf detail
  | facebook page => (Facebook.filmOn page).map fun url => [.video url]

def platform : Answer → Platform τ
  | instagram _ => Platform.instagram
  | tiktok _ => Platform.tiktok
  | douyin _ => Platform.douyin
  | facebook _ => Platform.facebook

def IsAddressed (a : Answer) : Prop := ∀ items, a.items = .ok items → ∀ item ∈ items, item.url ≠ ""

/-- An answer that names something without an address, where it is looked for: in a post that is no
row, in a row, or at the first address of the film of a post with no picture to send. -/
inductive IsBare : Answer → Prop where
  | single {post : Instagram.Post} : post.typename ≠ "XDTGraphSidecar" → post.node.IsBare →
      IsBare (.instagram (some post))
  | inRow {post : Instagram.Post} {row : List Instagram.Node} {n : Instagram.Node} :
      post.typename = "XDTGraphSidecar" → post.children = some row → n ∈ row → n.IsBare →
      IsBare (.instagram (some post))
  | film {post : Tiktok.Post} {later : List Tiktok.Post} {others : List String} :
      post.pictureUrls = [] → post.film = some ("" :: others) → IsBare (.tiktok (post :: later))

end Answer

/-! ### Items and their answers -/

section

variable {items : List Item} {item : Item}

theorem Instagram.Node.url_item_eq_empty_iff (n : Node) : n.item.url = "" ↔ n.IsBare := by
  unfold Node.item
  cases hfilm : n.isVideo with
  | true =>
    refine ⟨fun h => .film hfilm h, fun h => ?_⟩
    cases h with
    | film _ h => exact h
    | picture h _ => rw [hfilm] at h; cases h
  | false =>
    refine ⟨fun h => .picture hfilm h, fun h => ?_⟩
    cases h with
    | film h _ => rw [hfilm] at h; cases h
    | picture _ h => exact h

theorem Instagram.isBare_of_mem {post : Option Post} (h : itemsOf post = .ok items)
    (hitem : item ∈ items) (hurl : item.url = "") : (Answer.instagram post).IsBare := by
  cases post with
  | none => cases h
  | some post =>
    rw [itemsOf] at h
    split_ifs at h with hrow
    · obtain rfl := Except.ok.inj h
      cases hchildren : post.children with
      | none => simp [hchildren] at hitem
      | some row =>
        rw [hchildren] at hitem
        obtain ⟨n, hn, rfl⟩ := List.mem_map.1 hitem
        exact .inRow hrow hchildren hn (n.url_item_eq_empty_iff.1 hurl)
    · obtain rfl := Except.ok.inj h
      obtain rfl := List.mem_singleton.1 hitem
      exact .single hrow (post.node.url_item_eq_empty_iff.1 hurl)

theorem Tiktok.ne_empty_of_mem_pictureUrls {post : Post} {url : String}
    (h : url ∈ post.pictureUrls) : url ≠ "" := by
  simpa using (List.mem_filter.1 h).2

theorem Tiktok.isBare_of_mem {feed : List Post} (h : itemsOf feed = .ok items)
    (hitem : item ∈ items) (hurl : item.url = "") : (Answer.tiktok feed).IsBare := by
  cases feed with
  | nil => cases h
  | cons post later =>
    simp only [itemsOf, List.head?_cons] at h
    cases hpictures : post.pictureUrls with
    | nil =>
      simp only [hpictures] at h
      cases hfilm : post.film.bind (·.head?) with
      | none => simp [hfilm] at h
      | some url =>
        simp only [hfilm] at h
        obtain rfl := Except.ok.inj h
        obtain rfl := List.mem_singleton.1 hitem
        obtain rfl : url = "" := hurl
        obtain ⟨addresses, haddresses, hhead⟩ := Option.bind_eq_some_iff.1 hfilm
        obtain ⟨others, rfl⟩ := List.head?_eq_some_iff.1 hhead
        exact .film hpictures haddresses
    | cons url urls =>
      simp only [hpictures] at h
      obtain rfl := Except.ok.inj h
      obtain ⟨url', hurl', rfl⟩ := List.mem_map.1 hitem
      exact absurd hurl (ne_empty_of_mem_pictureUrls (hpictures ▸ hurl'))

theorem Douyin.url_ne_empty_of_mem {a : Answer} (h : itemsOf a = .ok items) (hitem : item ∈ items) :
    item.url ≠ "" := by
  rw [itemsOf] at h
  split_ifs at h with hmissing
  obtain rfl := Except.ok.inj h
  obtain rfl := List.mem_singleton.1 hitem
  simp only [Bool.or_eq_true, not_or, String.isEmpty_iff] at hmissing
  exact hmissing.2

theorem Facebook.ne_empty_of_filmOn {page : Reply} {url : String} (h : filmOn page = .ok url) :
    url ≠ "" := by
  obtain ⟨reply, -, h⟩ := Json.except_bind_eq_ok.1 h
  obtain ⟨text, -, h⟩ := Json.except_bind_eq_ok.1 h
  cases hfound : findVideoUrl text with
  | none => simp [hfound] at h
  | some found =>
    simp only [hfound] at h
    obtain rfl := Except.ok.inj h
    exact ne_empty_of_findVideoUrl hfound

/-- An item without an address is made of an answer that is bare. -/
theorem Answer.isBare_of_mem {a : Answer} (h : a.items = .ok items) (hitem : item ∈ items)
    (hurl : item.url = "") : a.IsBare := by
  cases a with
  | instagram post => exact Instagram.isBare_of_mem h hitem hurl
  | tiktok feed => exact Tiktok.isBare_of_mem h hitem hurl
  | douyin detail => exact absurd hurl (Douyin.url_ne_empty_of_mem h hitem)
  | facebook page =>
    cases hfilm : Facebook.filmOn page with
    | error e => simp [Answer.items, hfilm, Except.map] at h
    | ok url =>
      rw [Answer.items, hfilm] at h
      obtain rfl := Except.ok.inj h
      obtain rfl := List.mem_singleton.1 hitem
      exact absurd hurl (Facebook.ne_empty_of_filmOn hfilm)

/-- A bare answer is not refused: it gives an item without an address. -/
theorem Answer.IsBare.exists_mem {a : Answer} (h : a.IsBare) :
    ∃ items, a.items = .ok items ∧ ∃ item ∈ items, item.url = "" := by
  cases h with
  | @single post hrow hbare =>
    refine ⟨[post.node.item], ?_, _, List.mem_singleton_self _, ?_⟩
    · exact if_neg hrow
    · exact post.node.url_item_eq_empty_iff.2 hbare
  | @inRow post row n hrow hchildren hn hbare =>
    refine ⟨row.map Instagram.Node.item, ?_, n.item, List.mem_map_of_mem hn, ?_⟩
    · rw [Answer.items, Instagram.itemsOf, if_pos hrow, hchildren]
      rfl
    · exact n.url_item_eq_empty_iff.2 hbare
  | @film post later others hpictures hfilm =>
    refine ⟨[.video ""], ?_, _, List.mem_singleton_self _, rfl⟩
    simp [Answer.items, Tiktok.itemsOf, hpictures, hfilm]

end

/-- All items have an address if and only if the answer is not bare. No answer of Douyin and no page
of Facebook is. -/
theorem Answer.isAddressed_iff (a : Answer) : a.IsAddressed ↔ ¬ a.IsBare := by
  constructor
  · intro h hbare
    obtain ⟨items, hitems, item, hitem, hurl⟩ := hbare.exists_mem
    exact h items hitems item hitem hurl
  · intro h items hitems item hitem hurl
    exact h (Answer.isBare_of_mem hitems hitem hurl)

/-- The document of a post whose film has a cover and no address. -/
def coverAlone : Json :=
  .record [("data", .record [("xdt_shortcode_media", .record [("__typename", .str "XDTGraphVideo"),
    ("is_video", .bool true), ("display_url", .str "https://cdn.test/cover.jpg")])])]

theorem not_isAddressed_coverAlone :
    ∃ post, Json.decodeDocument Instagram.decodeAnswer coverAlone false = .ok post ∧
      ¬ (Answer.instagram post).IsAddressed := by
  refine ⟨_, rfl, fun h => ?_⟩
  exact h _ rfl _ (List.mem_singleton_self _) rfl

/-! ### Whole extractions -/

section

variable {p : Platform τ} {items : List Item} {link : String} {w w' : World τ}

theorem Instagram.exists_itemsOf_of_fetch {e : Endpoints}
    (h : fetch e link w = (.done items, w')) : ∃ post, itemsOf post = .ok items := by
  obtain ⟨link, w₁, -, h⟩ := Job.of_bind_eq_done h
  cases hcode : shortcode link with
  | none =>
    simp only [hcode] at h
    cases (Prod.mk.inj h).1
  | some code =>
    simp only [hcode] at h
    obtain ⟨token, w₂, -, h⟩ := Job.of_bind_eq_done h
    obtain ⟨post, w₃, -, h⟩ := Job.of_bind_eq_done h
    exact ⟨post, Job.of_ofExcept_eq_done h⟩

theorem Tiktok.exists_itemsOf_of_fetch (h : fetch link w = (.done items, w')) :
    ∃ feed, itemsOf feed = .ok items := by
  obtain ⟨link, w₁, -, h⟩ := Job.of_bind_eq_done h
  rw [lookUp] at h
  cases hid : postId link with
  | none =>
    simp only [hid] at h
    cases (Prod.mk.inj h).1
  | some id =>
    simp only [hid] at h
    obtain ⟨r, w₂, -, h⟩ := Job.of_bind_eq_done h
    obtain ⟨reply, -, h⟩ := Json.except_bind_eq_ok.1 (Job.of_ofExcept_eq_done h)
    obtain ⟨feed, -, h⟩ := Json.except_bind_eq_ok.1 h
    exact ⟨feed, h⟩

theorem Douyin.exists_itemsOf_of_fetch {api : String} (h : fetch api link w = (.done items, w')) :
    ∃ a, itemsOf a = .ok items := by
  obtain ⟨r, w₁, -, h⟩ := Job.of_bind_eq_done h
  obtain ⟨reply, -, h⟩ := Json.except_bind_eq_ok.1 (Job.of_ofExcept_eq_done h)
  obtain ⟨a, -, h⟩ := Json.except_bind_eq_ok.1 h
  exact ⟨a, h⟩

theorem Facebook.exists_filmOn_of_fetch (h : fetch link w = (.done items, w')) :
    ∃ page url, filmOn page = .ok url ∧ items = [.video url] := by
  obtain ⟨link, w₁, -, h⟩ := Job.of_bind_eq_done h
  obtain ⟨url, w₂, hurl, h⟩ := Job.of_bind_eq_done h
  obtain ⟨w₃, w₄, hscrape⟩ := Job.exists_done_of_retry (Job.of_mapError_eq_done hurl)
  obtain ⟨page, w₅, -, hfilm⟩ := Job.of_bind_eq_done hscrape
  cases h
  exact ⟨page, url, Job.of_ofExcept_eq_done hfilm, rfl⟩

/-- The items of an extraction are made of an answer of its platform. -/
theorem exists_answer_of_extract (hp : p ∈ Platform.defaults)
    (h : p.extract link w = (.done items, w')) :
    ∃ a : Answer, a.platform = p ∧ a.items = .ok items := by
  simp only [Platform.defaults, List.mem_cons, List.not_mem_nil, or_false] at hp
  rcases hp with rfl | rfl | rfl | rfl
  · simp only [Platform.instagram, Platform.named] at h
    obtain ⟨post, hpost⟩ := Instagram.exists_itemsOf_of_fetch h
    exact ⟨.instagram post, rfl, hpost⟩
  · simp only [Platform.tiktok, Platform.named] at h
    obtain ⟨feed, hfeed⟩ := Tiktok.exists_itemsOf_of_fetch h
    exact ⟨.tiktok feed, rfl, hfeed⟩
  · simp only [Platform.douyin, Platform.named] at h
    obtain ⟨detail, hdetail⟩ := Douyin.exists_itemsOf_of_fetch h
    exact ⟨.douyin detail, rfl, hdetail⟩
  · simp only [Platform.facebook, Platform.named] at h
    obtain ⟨page, url, hfilm, rfl⟩ := Facebook.exists_filmOn_of_fetch h
    exact ⟨.facebook page, rfl, by rw [Answer.items, hfilm]; rfl⟩

/-- An extraction that hands out an item without an address was given a bare answer. -/
theorem exists_isBare_of_extract {item : Item} (hp : p ∈ Platform.defaults)
    (h : p.extract link w = (.done items, w')) (hitem : item ∈ items) (hurl : item.url = "") :
    ∃ a : Answer, a.platform = p ∧ a.items = .ok items ∧ a.IsBare := by
  obtain ⟨a, ha, hitems⟩ := exists_answer_of_extract hp h
  exact ⟨a, ha, hitems, Answer.isBare_of_mem hitems hitem hurl⟩

end

end MediaRelay.Extract
