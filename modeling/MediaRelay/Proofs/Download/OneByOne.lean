import MediaRelay.Proofs.Download.Pool
/-! Items that are downloaded side by side, and the same items fetched one by one: whatever the
order in which tasks get their permits and end, the same is returned, and at no moment are more
items fetched than there are permits. -/

namespace MediaRelay

variable {τ : Type}

open Web

/-! ### Time -/

namespace Fetch

theorem now_le_exchange (due : Nanos) (shown : String) (url : Url) (q : Request) (w : World τ) :
    w.now ≤ (exchange due shown url q w).2.now := by
  let asked : World τ :=
    { w with requests := w.requests ++ [q], late := w.lateWith (.request q) }
  have hslept : w.now ≤ (asked.sleep (due - w.now)).2.now := asked.now_le_sleep _
  unfold exchange
  cases w.network.react w.requests q with
  | silent =>
    dsimp only
    split
    · next hsleep => rwa [hsleep] at hslept
    · next hsleep => rwa [hsleep] at hslept
  | _ => exact Nat.le_refl _

theorem Chain.now_le {w w' : World τ} {o : Outcome (Except HttpError Reply)} (h : Chain w o w') :
    w.now ≤ w'.now := by
  induction h with
  | @last w w' due shown url q o h r =>
    have hnow := now_le_exchange due shown url q w
    rwa [h] at hnow
  | @redirected w w₁ w' due shown url q a o h rest ih =>
    have hnow := now_le_exchange due shown url q w
    rw [h] at hnow
    exact Nat.le_trans hnow ih

theorem send_preserves_now (d : Draft) (t : Nanos) :
    (send d : Job τ _).Preserves fun w => t ≤ w.now := by
  intro w hw
  rcases hsend : send d w with ⟨o, w'⟩
  rcases send_cases hsend with ⟨e, -, rfl⟩ | hchain
  · exact hw
  · exact Nat.le_trans hw hchain.now_le

end Fetch

namespace Download

theorem now_le_fetch (maxBytes : ℕ) (item : Item) (w : World τ) :
    w.now ≤ (Job.watch (fetch maxBytes item) w).2.now := by
  have hofExcept {α : Type} (r : Except MediaError α) :
      (Job.ofExcept r : Job τ α).Preserves fun v => w.now ≤ v.now := by
    intro v hv
    cases r <;> exact hv
  have hfetch : (fetch maxBytes item : Job τ _).Preserves fun v => w.now ≤ v.now :=
    ((Fetch.send_preserves_now _ w.now).bind fun r => hofExcept _).bind fun r => hofExcept _
  exact hfetch.watch w (Nat.le_refl _)

/-! ### The schedule -/

def spans (maxBytes : ℕ) (free : Nanos) (others : List Nanos) :
    List Item → World τ → List (Nanos × Nanos)
  | [], _ => []
  | item :: items, w =>
    let earliest := takeEarliest free others
    let w := (Job.watch (fetch maxBytes item) { w with now := earliest.1 }).2
    (earliest.1, w.now) :: spans maxBytes w.now earliest.2 items w

/-- How many of these spans a moment lies in. A span that ends at that moment is over. -/
def busy (t : Nanos) (spans : List (Nanos × Nanos)) : ℕ :=
  spans.countP fun span => span.1 ≤ t && t < span.2

theorem map_snd_spans (maxBytes index : ℕ) (free : Nanos) (others : List Nanos)
    (items : List Item) (w : World τ) :
    (spans maxBytes free others items w).map (·.2) =
      (fetchAll maxBytes index free others items w).1.map (·.time) := by
  induction items generalizing index free others w with
  | nil => rfl
  | cons item items ih =>
    rcases hfetch : Job.watch (fetch maxBytes item)
      { w with now := (takeEarliest free others).1 } with ⟨o, w₁⟩
    simp only [spans, fetchAll, hfetch, List.map_cons]
    rw [ih (index + 1)]

/-- A span takes a permit that is free when it starts, and leaves it free when it ends. -/
theorem busy_cons_le {t start stop : ℕ} {others : List ℕ} {spans : List (ℕ × ℕ)}
    (hstop : start ≤ stop) (h : busy t spans ≤ (stop :: others).countP (· ≤ t)) :
    busy t ((start, stop) :: spans) ≤ (start :: others).countP (· ≤ t) := by
  simp only [busy, List.countP_cons] at h ⊢
  -- the moment comes before the span, lies in it, or comes after it
  rcases Nat.lt_or_ge t start with hbefore | hstart
  · have hstop' : ¬ stop ≤ t := Nat.not_le.2 (Nat.lt_of_lt_of_le hbefore hstop)
    simpa [Nat.not_le.2 hbefore, hstop'] using h
  · rcases Nat.lt_or_ge t stop with hin | hafter
    · simpa [hstart, hin, Nat.not_le.2 hin] using h
    · simpa [hstart, hafter, Nat.not_lt.2 hafter] using h

theorem busy_spans_le (maxBytes : ℕ) (t free : Nanos) (others : List Nanos) (items : List Item)
    (w : World τ) :
    busy t (spans maxBytes free others items w) ≤ (free :: others).countP (· ≤ t) := by
  induction items generalizing free others w with
  | nil => exact Nat.zero_le _
  | cons item items ih =>
    rw [spans, ← (takeEarliest_perm free others).countP_eq]
    have hstop := now_le_fetch maxBytes item { w with now := (takeEarliest free others).1 }
    exact busy_cons_le hstop (ih _ _ _)

/-! ### The outcomes -/

variable {n : Network} {w w₀ : World τ}

theorem map_outcome_fetchAll (hfixed : n.IsFixed) (hstops : n.NeverStops) (hw₀ : w₀.IsCalm n)
    (maxBytes index : ℕ) (free : Nanos) (others : List Nanos) (items : List Item)
    (hw : w.IsCalm n) :
    (fetchAll maxBytes index free others items w).1.map (·.outcome) =
      items.mapIdx fun place item => alone maxBytes (index + place) item w₀ := by
  induction items generalizing index free others w with
  | nil => rfl
  | cons item items ih =>
    have hstart : World.IsCalm n { w with now := (takeEarliest free others).1 } :=
      ⟨hw.network, hw.free⟩
    have hcalm := (fetch_calm (World.offline_isCalm hstops) maxBytes item hstart).1
    have halone : alone maxBytes index item { w with now := (takeEarliest free others).1 } =
        alone maxBytes index item w₀ := alone_agrees hfixed hstops hstart hw₀
    rw [alone] at halone
    rcases hfetch : Job.watch (fetch maxBytes item)
      { w with now := (takeEarliest free others).1 } with ⟨o, w₁⟩
    rw [hfetch] at hcalm halone
    simp only [fetchAll, hfetch, List.map_cons, List.mapIdx_cons, Nat.add_zero]
    rw [ih (index + 1) _ _ hcalm, halone]
    simp only [Nat.add_assoc, Nat.add_comm 1]

end Download

namespace Downloader

open Download

def spans (d : Downloader) (items : List Item) (w : World τ) : List (Nanos × Nanos) :=
  Download.spans d.maxBytes w.now (List.replicate (min d.permits items.length - 1) w.now) items w

theorem busy_spans_le (d : Downloader) (items : List Item) (w : World τ) (t : Nanos) :
    busy t (d.spans items w) ≤ d.permits := by
  have hpermits : 0 < d.permits := Nat.le_max_right d.concurrency 1
  have hbusy := Download.busy_spans_le d.maxBytes t w.now
    (List.replicate (min d.permits items.length - 1) w.now) items w
  have hlength : (w.now :: List.replicate (min d.permits items.length - 1) w.now).length ≤
      d.permits := by
    rw [List.length_cons, List.length_replicate]
    omega
  exact hbusy.trans (List.countP_le_length.trans hlength)

theorem downloadAll_eq (d : Downloader) (items : List Item) {w : World τ} (hw : w.IsFree)
    (hfixed : w.network.IsFixed) (hstops : w.network.NeverStops) :
    (d.downloadAll items w).1 = .done (oneByOne d.maxBytes (fun _ => false) items w) := by
  have hcalm : w.IsCalm w.network := ⟨rfl, hw⟩
  have houtcomes := map_outcome_fetchAll hfixed hstops hcalm d.maxBytes 1 w.now
    (List.replicate (min d.permits items.length - 1) w.now) items hcalm
  have hend := (fetchAll_calm (World.offline_isCalm hstops) d.maxBytes 1 w.now
    (List.replicate (min d.permits items.length - 1) w.now) items hcalm).1
  rcases hall : fetchAll d.maxBytes 1 w.now
    (List.replicate (min d.permits items.length - 1) w.now) items w with ⟨ends, w'⟩
  rw [hall] at houtcomes hend
  have hcut : ends.map (cutOff w'.firedAt) = ends := by
    rw [hend.free.1]
    exact List.map_id _
  simp only [downloadAll, hall, Arrival.inPlace_collect, hcut, Outcome.done.injEq]
  have hlength : ends.length = items.length := by
    simpa using congrArg List.length houtcomes
  refine List.ext_getElem (by simp [oneByOne, hlength]) fun place hplace hplace' => ?_
  have hitems : place < items.length := by simpa [oneByOne] using hplace'
  have hends : place < ends.length := hlength ▸ hitems
  have houtcome : ends[place].outcome = alone d.maxBytes (place + 1) items[place] w := by
    have hplaces := congrArg (·[place]?) houtcomes
    simpa [hitems, hends, Nat.add_comm] using hplaces
  simp [oneByOne, houtcome]

end Downloader

namespace Download

theorem index_oneByOne (maxBytes : ℕ) (killed : ℕ → Bool) (items : List Item) (w : World τ) :
    (oneByOne maxBytes killed items w).map (·.index) = List.range' 1 items.length := by
  refine List.ext_getElem (by simp [oneByOne]) fun place _ _ => ?_
  simp [oneByOne, Nat.add_comm]

theorem item_oneByOne (maxBytes : ℕ) (killed : ℕ → Bool) (items : List Item) (w : World τ) :
    (oneByOne maxBytes killed items w).map (·.item) = items := by
  refine List.ext_getElem (by simp [oneByOne]) fun place _ _ => ?_
  simp [oneByOne]

end Download

namespace Downloader

open Download

structure IsLikeOneByOne (d : Downloader) (items : List Item) (w : World τ) : Prop where
  /-- however the tasks run, no more fetch at once than there are permits -/
  within : ∀ s, Pool.Reaches d.maxBytes items (.start d items w) s →
    s.fetching ≤ max d.concurrency 1
  /-- however far they have come, they can come to an end without another being killed -/
  ends : ∀ s, Pool.Reaches d.maxBytes items (.start d items w) s →
    ∃ s', Pool.Reaches d.maxBytes items s s' ∧ s'.IsOver ∧ s'.killed = s.killed
  /-- at their end, the results are those of the items fetched alone -/
  results : ∀ s, Pool.Reaches d.maxBytes items (.start d items w) s → s.IsOver →
    s.results items = oneByOne d.maxBytes s.killed items w
  /-- they depend neither on the order nor on the number of permits -/
  unordered : ∀ (d' : Downloader) (s s' : Pool τ), d'.maxBytes = d.maxBytes →
    Pool.Reaches d.maxBytes items (.start d items w) s → s.IsOver →
    Pool.Reaches d'.maxBytes items (.start d' items w) s' → s'.IsOver →
    s.killed = s'.killed → s.results items = s'.results items
  numbered : ∀ killed,
    (oneByOne d.maxBytes killed items w).map (·.index) = List.range' 1 items.length ∧
      (oneByOne d.maxBytes killed items w).map (·.item) = items
  /-- the program returns these, in whatever order its tasks report -/
  downloadAll : ∀ d' : Downloader, d'.maxBytes = d.maxBytes →
    (d'.downloadAll items w).1 = .done (oneByOne d.maxBytes (fun _ => false) items w)
  /-- the spans are those of its fetches -/
  spans : (d.spans items w).map (·.2) = (fetchAll d.maxBytes 1 w.now
    (List.replicate (min d.permits items.length - 1) w.now) items w).1.map (·.time)
  /-- at no time does it fetch more items than there are permits -/
  busy : ∀ t, busy t (d.spans items w) ≤ max d.concurrency 1

/-- There is a downloader with so many permits, and it is like fetches one by one. -/
def WorksLikeOneByOne (maxBytes n : ℕ) (arrival : Arrival) (items : List Item) (w : World τ) : Prop :=
  ∃ d, make? maxBytes n arrival = some d ∧ d.maxBytes = maxBytes ∧ d.concurrency = n ∧
    d.IsLikeOneByOne items w

theorem isLikeOneByOne_of_calm (d : Downloader) (items : List Item) {w : World τ} (hw : w.IsFree)
    (hfixed : w.network.IsFixed) (hstops : w.network.NeverStops) :
    d.IsLikeOneByOne items w where
  within s hs := by
    have hpermits := (Pool.isSound_of_reaches hfixed hstops hw d hs).runs.permits
    exact Nat.le_trans (Nat.le_add_right _ s.free) (Nat.le_of_eq hpermits)
  ends s hs := Pool.exists_isOver hfixed hstops hw d hs
  results s hs hover := (Pool.isSound_of_reaches hfixed hstops hw d hs).results_eq hw hover
  unordered d' s s' hmax hs hover hs' hover' hkilled := by
    rw [(Pool.isSound_of_reaches hfixed hstops hw d hs).results_eq hw hover,
      (Pool.isSound_of_reaches hfixed hstops hw d' hs').results_eq hw hover', hkilled, hmax]
  numbered killed := ⟨index_oneByOne .., item_oneByOne ..⟩
  downloadAll d' hmax := hmax ▸ d'.downloadAll_eq items hw hfixed hstops
  spans := map_snd_spans ..
  busy t := d.busy_spans_le items w t

/-- Downloading items side by side is like fetching them one by one, with any number of permits that
a semaphore can hold, and with no other. -/
theorem worksLikeOneByOne_iff (maxBytes n : ℕ) (arrival : Arrival) (items : List Item) {w : World τ}
    (hw : w.IsFree) (hfixed : w.network.IsFixed) (hstops : w.network.NeverStops) :
    WorksLikeOneByOne maxBytes n arrival items w ↔ n ≤ maxPermits := by
  constructor
  · rintro ⟨d, -, -, rfl, -⟩
    exact d.permitted
  · intro hn
    exact ⟨⟨maxBytes, n, arrival, hn⟩, dif_pos hn, rfl, rfl,
      isLikeOneByOne_of_calm _ items hw hfixed hstops⟩

/-- Two permits for the same picture twice, one that never comes, and one that kills its task. -/
theorem worksLikeOneByOne_iff_pictures :
    let network : Network := ⟨fun _ q =>
      if q.url = "http://a.test/1" then .answer ⟨200, [], ⟨none, ["hi".toUTF8], true⟩⟩
      else if q.url = "http://a.test/2" then .silent
      else .crashes⟩
    let w : World Unit := { network, client := { timeout := 1000 }, messenger := () }
    let items : List Item := [.image "http://a.test/1", .image "http://a.test/2",
      .image "http://a.test/1", .image "http://a.test/3"]
    w.IsFree ∧ w.network.IsFixed ∧ w.network.NeverStops ∧
      WorksLikeOneByOne 100 2 .reversed items w := by
  intro network w items
  have hfixed : network.IsFixed := fun _ _ => rfl
  have hstops : network.NeverStops := by
    intro asked q
    dsimp only [network]
    split_ifs <;> exact Reaction.noConfusion
  have hworks : WorksLikeOneByOne 100 2 .reversed items w ↔ 2 ≤ maxPermits :=
    worksLikeOneByOne_iff 100 2 .reversed items ⟨rfl, rfl⟩ hfixed hstops
  exact ⟨⟨rfl, rfl⟩, hfixed, hstops, hworks.2 (by decide)⟩

/-- A single picture, and one permit more than a semaphore can hold. -/
theorem not_worksLikeOneByOne_tooMany :
    let network : Network := ⟨fun _ _ => .answer ⟨200, [], ⟨none, ["hi".toUTF8], true⟩⟩⟩
    let w : World Unit := { network, client := { timeout := 1000 }, messenger := () }
    w.IsFree ∧ w.network.IsFixed ∧ w.network.NeverStops ∧
      ¬ WorksLikeOneByOne 1000 2305843009213693952 .inOrder [.image "http://a.test/1"] w := by
  intro network w
  have hstops : network.NeverStops := fun _ _ => Reaction.noConfusion
  refine ⟨⟨rfl, rfl⟩, fun _ _ => rfl, hstops, ?_⟩
  rintro ⟨d, hmake, -⟩
  cases (dif_neg (by decide) : make? 1000 2305843009213693952 = none).symm.trans hmake

end Downloader
end MediaRelay
