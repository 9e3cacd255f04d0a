import MediaRelay.Proofs.Outbox.Oversized
import MediaRelay.Proofs.Pipeline.Accounting
import MediaRelay.Proofs.Pipeline.Token
import MediaRelay.Proofs.Platform.Extraction
/-! The limits of a delivery. Whatever a server announces and however its body comes in, nothing
larger than a download may be gets as far as the outbox, and from there nothing larger than an
upload may be gets to the platform, nor anything more often than there are attempts. -/

namespace MediaRelay

variable {τ : Type}

namespace Web.Body

theorem size_readCappedFrom {limit : ℕ} {complete : Bool} {buf data : ByteArray}
    {chunks : List ByteArray} (h : readCappedFrom limit complete buf chunks = .ok data)
    (hbuf : buf.size ≤ limit) : data.size ≤ limit := by
  induction chunks generalizing buf with
  | nil =>
    rw [readCappedFrom] at h
    split_ifs at h
    cases h
    exact hbuf
  | cons c chunks ih =>
    rw [readCappedFrom] at h
    split_ifs at h with hsize
    refine ih h ?_
    rw [ByteArray.size_append]
    omega

/-- The announced length only ever refuses a body. -/
theorem size_readCapped {limit : ℕ} {b : Body} {data : ByteArray}
    (h : b.readCapped limit = .ok data) : data.size ≤ limit := by
  have hempty : ByteArray.empty.size ≤ limit := Nat.zero_le _
  unfold readCapped at h
  split at h
  · split_ifs at h
    exact size_readCappedFrom h hempty
  · exact size_readCappedFrom h hempty

end Web.Body

namespace Download

theorem size_payloadOf {maxBytes : ℕ} {item : Item} {r : Reply} {p : Payload}
    (h : payloadOf maxBytes item r = .ok p) : p.size ≤ maxBytes := by
  unfold payloadOf at h
  split_ifs at h
  split at h
  · cases h
  · next data hdata =>
    cases h
    exact Web.Body.size_readCapped hdata

theorem size_fetch {maxBytes : ℕ} {item : Item} {w w' : World τ} {p : Payload}
    (h : Job.watch (fetch maxBytes item) w = (.done p, w')) : p.size ≤ maxBytes := by
  obtain ⟨-, h⟩ := Job.of_watch_eq_done h
  obtain ⟨r, w₁, -, h⟩ := Job.of_bind_eq_done h
  cases hp : payloadOf maxBytes item r with
  | ok q =>
    rw [hp] at h
    obtain ⟨⟨⟩, -⟩ := Prod.mk.inj h
    exact size_payloadOf hp
  | error e =>
    rw [hp] at h
    cases (Prod.mk.inj h).1

theorem settle_eq_ok {index : ℕ} {o : Outcome Payload} {p : Payload} (h : settle index o = .ok p) :
    o = .done p := by
  cases o with
  | done q =>
    cases h
    rfl
  | _ => cases h

theorem cutOff_eq_ok {firedAt : Option Nanos} {e : Ended} {p : Payload}
    (h : (cutOff firedAt e).outcome = .ok p) : e.outcome = .ok p := by
  unfold cutOff at h
  split at h
  · split_ifs at h
    exact h
  · exact h

theorem size_fetchAll {maxBytes index : ℕ} {free : Nanos} {others : List Nanos}
    {items : List Item} {w w' : World τ} {ends : List Ended}
    (h : fetchAll maxBytes index free others items w = (ends, w')) {e : Ended} (he : e ∈ ends)
    {p : Payload} (hp : e.outcome = .ok p) : p.size ≤ maxBytes := by
  induction items generalizing index free others w ends with
  | nil =>
    obtain ⟨rfl, -⟩ := Prod.mk.inj h
    cases he
  | cons item items ih =>
    rcases hearliest : takeEarliest free others with ⟨start, others'⟩
    rcases hfetch : Job.watch (fetch maxBytes item) { w with now := start } with ⟨o, w₁⟩
    rcases hrest : fetchAll maxBytes (index + 1) w₁.now others' items w₁ with ⟨rest, w₂⟩
    simp only [fetchAll, hearliest, hfetch, hrest] at h
    obtain ⟨rfl, rfl⟩ := Prod.mk.inj h
    rcases List.mem_cons.1 he with rfl | he
    · rw [settle_eq_ok hp] at hfetch
      exact size_fetch hfetch
    · exact ih hrest he

end Download

/-- What comes through of the downloads is no larger than a download may be. -/
theorem Downloader.size_le_of_downloadAll {d : Downloader} {items : List Item} {w : World τ}
    {results : List DownloadResult} (h : (d.downloadAll items w).1 = .done results)
    {q : ℕ × Payload} (hq : q ∈ results.filterMap DownloadResult.payload?) :
    q.2.size ≤ d.maxBytes := by
  rcases hall : Download.fetchAll d.maxBytes 1 w.now
      (List.replicate (min d.permits items.length - 1) w.now) items w with ⟨ends, w'⟩
  simp only [downloadAll, hall, Arrival.inPlace_collect] at h
  obtain rfl := Outcome.done.inj h
  obtain ⟨r, hr, hpayload⟩ := List.mem_filterMap.1 hq
  obtain ⟨⟨⟨item, e⟩, place⟩, hmem, rfl⟩ := List.mem_map.1 hr
  obtain ⟨e', he', rfl⟩ := List.mem_map.1 (List.of_mem_zip (List.fst_mem_of_mem_zipIdx hmem)).2
  rw [DownloadResult.payload?] at hpayload
  split at hpayload
  · next p hp =>
    obtain rfl := Option.some.inj hpayload
    exact Download.size_fetchAll hall he' (Download.cutOff_eq_ok hp)
  · cases hpayload

namespace Pipeline

variable [Transport τ] {thread : Thread}

/-- What one delivery uploads: payloads that came through within the limit of a download, of these
none that is larger than an upload may be, and none more often than there are attempts. -/
theorem withinBudget_deliverItems (p : Pipeline τ) (thread : Thread) (items : List Item)
    (w : World τ) :
    ∃ results, (p.downloader.downloadAll items w).1 = .done results ∧
      p.outbox.WithinBudget ((results.filterMap DownloadResult.payload?).map (·.2)) w
        (p.deliverItems thread items w).2 := by
  obtain ⟨results, w₁, hd, hcalls, -⟩ :=
    p.downloader.downloadAll_results (World.offline_calls w.calls) items rfl
  refine ⟨results, by rw [hd], ?_⟩
  simp only [deliverItems, Job.bind, hd]
  refine Outbox.WithinBudget.of_earlier ?_ hcalls
  by_cases hnil : results.filterMap DownloadResult.payload? = []
  · rw [sendDownloaded_of_nil thread hnil, hnil]
    exact .of_tries [] (.refl w₁) .nil (.refl _)
  · rw [(sendDownloaded_as_sent thread p hnil w₁).1]
    exact Outbox.withinBudget_sendIndexed p.outbox thread _ w₁

theorem withinBudget_deliver (p : Pipeline τ) (thread : Thread)
    (hp : ∀ q ∈ p.platforms, q.IsOffline) (link : String) (w : World τ) :
    ∃ payloads, (∀ payload ∈ payloads, payload.size ≤ p.downloader.maxBytes) ∧
      p.outbox.WithinBudget payloads w (p.deliver thread link w).2 := by
  have hcalls : (p.extract link w).2.calls = w.calls :=
    p.isOffline_extract hp link _ (World.offline_calls w.calls) w rfl
  rcases hex : p.extract link w with ⟨o, w₁⟩
  rw [hex] at hcalls
  simp only [deliver, Job.bind, hex]
  cases o with
  | done items =>
    obtain ⟨results, hd, hbudget⟩ := p.withinBudget_deliverItems thread items w₁
    refine ⟨_, fun payload hmem => ?_, hbudget.of_earlier hcalls⟩
    obtain ⟨q, hq, rfl⟩ := List.mem_map.1 hmem
    exact Downloader.size_le_of_downloadAll hd hq
  | _ => exact ⟨[], by simp, .of_tries [] (.of_eq hcalls) .nil (.refl _)⟩

structure KeepsLimits (p : Pipeline τ) (thread : Thread) : Prop where
  media : ∀ payload (w : World τ),
    p.outbox.WithinBudget [payload] w (p.outbox.sendMedia thread payload w).2
  indexed : ∀ payloads (w : World τ),
    p.outbox.WithinBudget (payloads.map (·.2)) w (p.outbox.sendIndexed thread payloads w).2
  multi : ∀ payloads (w : World τ),
    p.outbox.WithinBudget payloads w (p.outbox.sendMultiMedia thread payloads w).2
  /-- in whatever order uploads take their tries, and between whichever of them the token fires -/
  sideBySide : ∀ payloads (w w' : World τ) ts, Outbox.Race p.outbox thread payloads w ts w' →
    p.outbox.WithinBudget (payloads.map (·.2)) w w' ∧
      p.outbox.NamesOversized payloads (MediaError.sortByItem (ts.filterMap (·.upload.failure?)))
  reported : ∀ payloads (w : World τ) failures, 2 ≤ payloads.length →
    Outbox.failuresOf? (p.outbox.sendIndexed thread payloads w).1 = some failures →
      p.outbox.NamesOversized payloads failures
  /-- payloads numbered from one -/
  reportedMulti : ∀ payloads (w : World τ) failures, 2 ≤ payloads.length →
    Outbox.failuresOf? (p.outbox.sendMultiMedia thread payloads w).1 = some failures →
      ∀ i payload, payloads[i]? = some payload → p.outbox.maxUpload < payload.size →
        failures.filter (·.itemIndex? == some (i + 1)) =
          [.uploadFailed (i + 1)
            s!"payload too large ({payload.size} bytes, max {p.outbox.maxUpload})"]
  fetched : ∀ item (w w' : World τ) payload,
    Job.watch (Download.fetch p.downloader.maxBytes item) w = (.done payload, w') →
      payload.size ≤ p.downloader.maxBytes
  downloaded : ∀ items (w : World τ) results, (p.downloader.downloadAll items w).1 = .done results →
    ∀ q ∈ results.filterMap DownloadResult.payload?, q.2.size ≤ p.downloader.maxBytes
  delivered : ∀ items (w : World τ), ∃ results,
    (p.downloader.downloadAll items w).1 = .done results ∧
      p.outbox.WithinBudget ((results.filterMap DownloadResult.payload?).map (·.2)) w
        (p.deliverItems thread items w).2
  /-- for platforms that find their items by work on the web -/
  followed : (∀ q ∈ p.platforms, q.IsOffline) → ∀ link (w : World τ), ∃ payloads,
    (∀ payload ∈ payloads, payload.size ≤ p.downloader.maxBytes) ∧
      p.outbox.WithinBudget payloads w (p.deliver thread link w).2

/-- Numbers that are counted from one stand for one payload each. -/
theorem single_of_sendMultiMedia {o : Outbox} {payloads : List Payload}
    (hseveral : 2 ≤ payloads.length) {w : World τ} {failures : List MediaError}
    (h : Outbox.failuresOf? (o.sendMultiMedia thread payloads w).1 = some failures) {i : ℕ}
    {payload : Payload} (hi : payloads[i]? = some payload) (hsize : o.maxUpload < payload.size) :
    failures.filter (·.itemIndex? == some (i + 1)) = [o.oversizedEntry (i + 1, payload)] := by
  have hnames := Outbox.namesOversized_sendIndexed (by simpa using hseveral) h
  refine hnames.single ?_ (i + 1, payload) ?_ hsize
  · rw [List.map_map]
    have hplaces : payloads.zipIdx.map ((·.1) ∘ fun q => (q.2 + 1, q.1)) =
        (List.range' 0 payloads.length).map (· + 1) := by
      rw [← List.zipIdx_map_snd, List.map_map]
      rfl
    rw [hplaces]
    exact List.Nodup.map (fun _ _ => Nat.succ.inj) List.nodup_range'
  · exact List.mem_map.2 ⟨(payload, i), List.mem_zipIdx_iff_getElem?.2 hi, rfl⟩

theorem keepsLimits (p : Pipeline τ) (thread : Thread) :
    (∀ q ∈ (Platform.defaults : List (Platform τ)), q.IsOffline) ∧ p.KeepsLimits thread := by
  refine ⟨fun q => Platform.isOffline_of_mem_defaults, ?_⟩
  exact
    { media := Outbox.withinBudget_sendMedia p.outbox thread
      indexed := Outbox.withinBudget_sendIndexed p.outbox thread
      multi := Outbox.withinBudget_sendMultiMedia p.outbox thread
      sideBySide := fun _ _ _ _ h =>
        ⟨h.isUnderWay.withinBudget, h.isUnderWay.namesOversized_sorted⟩
      reported := fun _ _ _ hseveral => Outbox.namesOversized_sendIndexed hseveral
      reportedMulti := fun _ _ _ hseveral h _ _ => single_of_sendMultiMedia hseveral h
      fetched := fun _ _ _ _ => Download.size_fetch
      downloaded := fun _ _ _ h _ => Downloader.size_le_of_downloadAll h
      delivered := p.withinBudget_deliverItems thread
      followed := p.withinBudget_deliver thread }

/-- A picture goes out, one is too large, and a film is refused as often as it may be tried. -/
theorem keepsLimits_gallery :
    let o : Outbox := { attempts := 2, maxUpload := 1 }
    let p : Pipeline Gallery :=
      { platforms := Platform.defaults, downloader := { maxBytes := 100, concurrency := 2 }
        outbox := o }
    let large : Payload := ⟨"BC".toUTF8, "image/png"⟩
    let payloads : List Payload :=
      [⟨"A".toUTF8, "image/png"⟩, large, ⟨"D".toUTF8, "video/mp4"⟩]
    let w : World Gallery :=
      { network := galleryNetwork, client := { timeout := 1000 }, messenger := {} }
    let sent := o.sendMultiMedia 42 payloads w
    o.WithinBudget payloads w sent.2 ∧
      (sent.2.calls.filterMap CallRecord.upload?).map (·.size) = [1, 1, 1] ∧
      (∃ failures, Outbox.failuresOf? sent.1 = some failures ∧
        failures.filter (·.itemIndex? == some 2) =
          [.uploadFailed 2 "payload too large (2 bytes, max 1)"]) ∧
      ∀ link, ∃ sized, (∀ payload ∈ sized, payload.size ≤ 100) ∧
        o.WithinBudget sized w (p.deliver 42 link w).2 := by
  intro o p large payloads w sent
  obtain ⟨hdefaults, hlimits⟩ := keepsLimits p 42
  have hsent : sent = o.sendTogether 42 (payloads.zipIdx.map fun q => (q.2 + 1, q.1)) w := rfl
  rw [o.sendTogether_eq] at hsent
  have hups : (sent.2.calls.filterMap CallRecord.upload?).map (·.size) = [1, 1, 1] := by
    rw [hsent]
    decide +kernel
  have hsome : (Outbox.failuresOf? sent.1).isSome = true := by
    rw [hsent]
    decide +kernel
  have hwords : s!"payload too large ({large.size} bytes, max {p.outbox.maxUpload})" =
      "payload too large (2 bytes, max 1)" := by
    decide +kernel
  obtain ⟨failures, hfailures⟩ := Option.isSome_iff_exists.1 hsome
  have hfail := hlimits.reportedMulti payloads w failures (by decide) hfailures 1 large rfl
    (by decide +kernel)
  rw [hwords] at hfail
  exact ⟨hlimits.multi payloads w, hups, ⟨failures, hfailures, hfail⟩,
    fun link => hlimits.followed hdefaults link w⟩

end Pipeline
end MediaRelay
