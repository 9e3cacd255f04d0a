import MediaRelay.Pipeline
import MediaRelay.Proofs.Download
import MediaRelay.Proofs.Outbox.Token
import MediaRelay.Proofs.Platform.Token
/-! The token stops the pipeline: whenever it fires, in a call, in a wait or between stages, nothing
is asked for after it, but for the send of a single payload whose upload was accepted meanwhile. -/

namespace MediaRelay

variable {τ : Type}

namespace Download

theorem isPrompt_fetch (maxBytes : ℕ) (item : Item) : (fetch maxBytes item : Job τ _).IsPrompt :=
  (Job.takesInWeb_isPrompt.sendOr _ _).bind fun _ => Job.isPrompt_ofExcept _

/-- Every item looks at the token when it gets its permit, and while it is fetched. -/
theorem late_fetchAll (maxBytes index : ℕ) (free : Nanos) (others : List Nanos)
    (items : List Item) (w : World τ) :
    (fetchAll maxBytes index free others items w).2.late = w.late := by
  induction items generalizing index free others w with
  | nil => rfl
  | cons item items ih =>
    rcases hearliest : takeEarliest free others with ⟨start, others'⟩
    have hlate := (isPrompt_fetch (τ := τ) maxBytes item).timely.watch { w with now := start }
    rcases hfetch : Job.watch (fetch maxBytes item) { w with now := start } with ⟨o, w₁⟩
    rw [hfetch] at hlate
    simp only [fetchAll, hearliest, hfetch]
    exact (ih _ _ _ w₁).trans hlate

/-- No item is asked for when the token fired before all, and no time passes. -/
theorem fetchAll_of_stopped (maxBytes index : ℕ) (free : Nanos) (others : List Nanos)
    (items : List Item) {w : World τ} (h : w.stopped = true)
    (hfree : ∀ t ∈ free :: others, t = w.now) :
    fetchAll maxBytes index free others items w =
      (List.replicate items.length ⟨w.now, .error .cancelled⟩, w) := by
  induction items generalizing index free others with
  | nil => rfl
  | cons item items ih =>
    have hperm := takeEarliest_perm free others
    rcases hearliest : takeEarliest free others with ⟨start, others'⟩
    rw [hearliest] at hperm
    have hnow : ∀ t ∈ start :: others', t = w.now := fun t ht => hfree t (hperm.mem_iff.1 ht)
    obtain rfl := hnow start (List.mem_cons_self ..)
    simp only [fetchAll, hearliest, Job.watch_of_stopped _ h, settle]
    rw [ih (index + 1) _ others' hnow]
    rfl

theorem outcome_cutOff {firedAt : Option Nanos} {e : Ended} (h : e.outcome = .error .cancelled) :
    (cutOff firedAt e).outcome = .error .cancelled := by
  unfold cutOff
  split
  · split_ifs
    · rfl
    · exact h
  · exact h

theorem time_cutOff_le (firedAt : Option Nanos) (e : Ended) : (cutOff firedAt e).time ≤ e.time := by
  unfold cutOff
  split
  · split_ifs with hs
    · exact Nat.le_of_lt hs
    · exact Nat.le_refl _
  · exact Nat.le_refl _

end Download

namespace Downloader

theorem late_downloadAll (d : Downloader) (items : List Item) :
    (d.downloadAll items : Job τ _).IsPunctual := by
  intro w
  rcases hall : Download.fetchAll d.maxBytes 1 w.now
      (List.replicate (min d.permits items.length - 1) w.now) items w with ⟨ends, w'⟩
  have hlate := Download.late_fetchAll d.maxBytes 1 w.now
    (List.replicate (min d.permits items.length - 1) w.now) items w
  rw [hall] at hlate
  simp only [downloadAll, hall]
  exact hlate

theorem latest_replicate {now : Nanos} {e : Download.Ended} (h : e.time ≤ now) (n : ℕ) :
    (List.replicate n e).foldl (fun t e => max t e.time) now = now := by
  induction n with
  | zero => rfl
  | succ n ih => rw [List.replicate_succ, List.foldl_cons, Nat.max_eq_left h, ih]

/-- When the token fired before, every item is reported as cancelled and the world stays so. -/
theorem downloadAll_of_stopped (d : Downloader) (items : List Item) {w : World τ}
    (h : w.stopped = true) :
    ∃ results, d.downloadAll items w = (.done results, w) ∧ results.length = items.length ∧
      ∀ r ∈ results, r.outcome = .error .cancelled := by
  have hall := Download.fetchAll_of_stopped d.maxBytes 1 w.now
    (List.replicate (min d.permits items.length - 1) w.now) items h (by simp)
  let cut := Download.cutOff w.firedAt ⟨w.now, .error .cancelled⟩
  have hcut : cut.outcome = .error .cancelled := Download.outcome_cutOff rfl
  have htime : cut.time ≤ w.now := Download.time_cutOff_le _ _
  simp only [downloadAll, hall, List.map_replicate, Arrival.inPlace_collect]
  refine ⟨_, Prod.ext rfl ?_, ?_, ?_⟩
  · change { w with now := (List.replicate items.length cut).foldl _ w.now } = w
    rw [latest_replicate htime]
  · simp
  · intro r hr
    obtain ⟨⟨⟨item, e⟩, place⟩, hmem, rfl⟩ := List.mem_map.1 hr
    have hend := (List.of_mem_zip (List.fst_mem_of_mem_zipIdx hmem)).2
    rw [List.eq_of_mem_replicate hend]
    exact hcut

end Downloader

namespace Pipeline

theorem late_extract (p : Pipeline τ) (hp : ∀ q ∈ p.platforms, q.IsPrompt) (link : String) :
    (p.extract link).IsPunctual := by
  refine (Platform.isPrompt_itemsOf hp link).timely.watch.bind fun items => ?_
  cases items with
  | nil => exact Job.isPunctual_fail _
  | cons item items => exact Job.isPunctual_pure _

theorem extract_of_stopped (p : Pipeline τ) (link : String) {w : World τ} (h : w.stopped = true) :
    p.extract link w = (.failed .cancelled, w) := by
  simp only [extract, Job.bind, Job.watch_of_stopped _ h]

variable [Transport τ] (thread : Thread)

theorem sendDownloaded_of_nil {p : Pipeline τ} {results : List DownloadResult}
    (h : results.filterMap DownloadResult.payload? = []) :
    p.sendDownloaded thread results =
      Job.fail (.allDownloadsFailed (results.filterMap DownloadResult.failure?)) := by
  simp only [sendDownloaded, h]

/-- What came through is sent, and the account of it changes the world no more. -/
theorem sendDownloaded_as_sent (p : Pipeline τ) {results : List DownloadResult}
    (h : results.filterMap DownloadResult.payload? ≠ []) (w : World τ) :
    let sent := p.outbox.sendIndexed thread (results.filterMap DownloadResult.payload?) w
    (p.sendDownloaded thread results w).2 = sent.2 ∧
      ∀ e, sent.1 = .failed e → ∃ e', (p.sendDownloaded thread results w).1 = .failed e' := by
  obtain ⟨payload, payloads, hpayloads⟩ := List.exists_cons_of_ne_nil h
  simp only [sendDownloaded, hpayloads, Job.bind_pure, Job.mapError]
  rcases p.outbox.sendIndexed thread (payload :: payloads) w with ⟨o, w'⟩
  cases o <;> simp [Outcome.map]

theorem late_sendDownloaded (p : Pipeline τ) (results : List DownloadResult) (w : World τ) :
    (p.sendDownloaded thread results w).2.late = w.late ∨
      ∃ index payload, results.filterMap DownloadResult.payload? = [(index, payload)] ∧
        Outbox.LateSend thread payload w (p.sendDownloaded thread results w).2 := by
  by_cases h : results.filterMap DownloadResult.payload? = []
  · rw [sendDownloaded_of_nil thread h]
    exact .inl rfl
  · rw [(sendDownloaded_as_sent thread p h w).1]
    exact Outbox.late_sendIndexed thread p.outbox _ w

theorem sendDownloaded_of_stopped (p : Pipeline τ) (results : List DownloadResult) {w : World τ}
    (h : w.stopped = true) :
    ∃ e, p.sendDownloaded thread results w = (.failed e, w) := by
  by_cases hnil : results.filterMap DownloadResult.payload? = []
  · rw [sendDownloaded_of_nil thread hnil]
    exact ⟨_, rfl⟩
  · obtain ⟨hworld, hfails⟩ := sendDownloaded_as_sent thread p hnil w
    obtain ⟨e, he⟩ := Outbox.sendIndexed_of_stopped thread p.outbox hnil h
    rw [he] at hworld hfails
    obtain ⟨e', he'⟩ := hfails e rfl
    exact ⟨e', Prod.ext he' hworld⟩

theorem late_deliverItems (p : Pipeline τ) (items : List Item) (w : World τ) :
    (p.deliverItems thread items w).2.late = w.late ∨
      ∃ results index payload, (p.downloader.downloadAll items w).1 = .done results ∧
        results.filterMap DownloadResult.payload? = [(index, payload)] ∧
          Outbox.LateSend thread payload w (p.deliverItems thread items w).2 := by
  have hlate := p.downloader.late_downloadAll items w
  obtain ⟨results, w₁, hd, hcalls, -⟩ :=
    p.downloader.downloadAll_results (World.offline_calls w.calls) items rfl
  rw [hd] at hlate
  simp only [deliverItems, Job.bind, hd]
  rcases late_sendDownloaded thread p results w₁ with
    hsame | ⟨index, payload, hone, hsend⟩
  · exact .inl (hsame.trans hlate)
  · exact .inr ⟨results, index, payload, rfl, hone,
      hsend.of_earlier (hcalls.trans (List.append_nil _).symm) hlate⟩

theorem deliverItems_of_stopped (p : Pipeline τ) (items : List Item) {w : World τ}
    (h : w.stopped = true) :
    ∃ failures, p.deliverItems thread items w = (.failed (.allDownloadsFailed failures), w) ∧
      failures.length = items.length := by
  obtain ⟨results, hd, hlength, hcancelled⟩ := p.downloader.downloadAll_of_stopped items h
  have hnone : results.filterMap DownloadResult.payload? = [] := by
    rw [List.filterMap_eq_nil_iff]
    intro r hr
    rw [DownloadResult.payload?, hcancelled r hr]
  have hfailures : results.filterMap DownloadResult.failure? =
      results.map fun r => .downloadFailed r.index MediaError.cancelled.message := by
    rw [← List.filterMap_eq_map']
    refine List.filterMap_congr fun r hr => ?_
    simp [DownloadResult.failure?, hcancelled r hr]
  have hcount : (results.filterMap DownloadResult.failure?).length = items.length := by
    rw [hfailures, List.length_map, hlength]
  refine ⟨results.filterMap DownloadResult.failure?, ?_, hcount⟩
  simp only [deliverItems, Job.bind, hd, sendDownloaded_of_nil thread hnone, Job.fail]

/-- Tasks of a pipeline that run side by side, in any order: each takes its next step, and between
two steps time passes, or somebody fires the token. -/
inductive SideBySide (p : Pipeline τ) (w : World τ) : World τ → Prop
  | start : SideBySide p w w
  | passes {w₁ : World τ} (h : SideBySide p w w₁) (time : Nanos) :
    SideBySide p w { w₁ with now := w₁.now + time }
  | fires {w₁ : World τ} (h : SideBySide p w w₁) : SideBySide p w w₁.fire
  /-- an item has its permit and is fetched -/
  | fetch {w₁ : World τ} (h : SideBySide p w w₁) (item : Item) :
    SideBySide p w (Job.watch (Download.fetch p.downloader.maxBytes item) w₁).2
  /-- an upload has its next try -/
  | upload {w₁ : World τ} (h : SideBySide p w w₁) (more : Bool) (u : Outbox.Upload) :
    SideBySide p w (Outbox.tryUpload thread more u w₁).2
  /-- what was uploaded is sent -/
  | send {w₁ : World τ} (h : SideBySide p w w₁) (uploads : List Outbox.Upload) :
    SideBySide p w (p.outbox.sendUploaded thread uploads w₁).2
  /-- a piece of a text is sent -/
  | text {w₁ : World τ} (h : SideBySide p w w₁) (piece : String) :
    SideBySide p w (Job.retry p.outbox.backoff (Outbox.sendTextOnce thread piece) w₁).2

theorem SideBySide.late {p : Pipeline τ} {w w' : World τ} (h : p.SideBySide thread w w') :
    w'.late = w.late := by
  induction h with
  | start => rfl
  | passes _ _ ih => exact ih
  | fires _ ih => exact ih
  | fetch _ item ih => exact ((Download.isPrompt_fetch _ item).timely.watch _).trans ih
  | upload _ more u ih => exact (Outbox.late_tryUpload thread more u _).trans ih
  | send _ uploads ih => exact (Outbox.isPunctual_sendUploaded thread p.outbox uploads _).trans ih
  | text _ piece ih => exact ((Job.isTimely_call _ _ _).retry p.outbox.backoff _).trans ih

/-- Whenever the token fires, in a call, in a wait or between two of them, nothing is asked for
after it, but for the send of a single payload. -/
structure HeedsToken (p : Pipeline τ) : Prop where
  /-- for platforms that give up where they wait -/
  extract : (∀ q ∈ p.platforms, q.IsPrompt) →
    ∀ link (w : World τ), (p.extract link w).2.late = w.late
  message : ∀ text (w : World τ), (p.outbox.sendMessage thread text w).2.late = w.late
  media : ∀ payload (w : World τ), (p.outbox.sendMedia thread payload w).2.late = w.late ∨
    Outbox.LateSend thread payload w (p.outbox.sendMedia thread payload w).2
  indexed : ∀ payloads (w : World τ), (p.outbox.sendIndexed thread payloads w).2.late = w.late ∨
    ∃ index payload, payloads = [(index, payload)] ∧
      Outbox.LateSend thread payload w (p.outbox.sendIndexed thread payloads w).2
  items : ∀ items (w : World τ), (p.deliverItems thread items w).2.late = w.late ∨
    ∃ results index payload, (p.downloader.downloadAll items w).1 = .done results ∧
      results.filterMap DownloadResult.payload? = [(index, payload)] ∧
        Outbox.LateSend thread payload w (p.deliverItems thread items w).2
  /-- in whatever order tasks take their steps, and between whichever of them the token fires -/
  sideBySide : ∀ w w' : World τ, p.SideBySide thread w w' → w'.late = w.late

structure IsCalledOff (p : Pipeline τ) (w : World τ) : Prop where
  extract : ∀ link, p.extract link w = (.failed .cancelled, w)
  message : ∀ text, p.outbox.sendMessage thread text w = (.failed .cancelled, w)
  media : ∀ payload, payload.size ≤ p.outbox.maxUpload →
    p.outbox.sendMedia thread payload w = (.failed .cancelled, w)
  oversized : ∀ payload, p.outbox.maxUpload < payload.size →
    p.outbox.sendMedia thread payload w =
      (.failed (.oversizedPayload payload.size p.outbox.maxUpload), w)
  indexed : ∀ payloads, payloads ≠ [] →
    ∃ e, p.outbox.sendIndexed thread payloads w = (.failed e, w)
  items : ∀ items, ∃ failures, p.deliverItems thread items w =
      (.failed (.allDownloadsFailed failures), w) ∧ failures.length = items.length
  /-- after the downloads of `deliverItems` -/
  downloaded : ∀ results, ∃ e, p.sendDownloaded thread results w = (.failed e, w)
  /-- after the uploads of `sendIndexed` -/
  uploaded : ∀ uploads, ∃ e, p.outbox.sendUploaded thread uploads w = (.failed e, w)

theorem isCalledOff (p : Pipeline τ) {w : World τ} (h : w.stopped = true) :
    p.IsCalledOff thread w where
  extract link := p.extract_of_stopped link h
  message text := Outbox.sendMessage_of_stopped thread p.outbox text h
  media _ hsize := Outbox.sendMedia_of_stopped thread p.outbox (if_neg (Nat.not_lt.2 hsize)) h
  oversized _ hsize := Outbox.sendMedia_of_oversized thread p.outbox (if_pos hsize) w
  indexed _ hne := Outbox.sendIndexed_of_stopped thread p.outbox hne h
  items items := p.deliverItems_of_stopped thread items h
  downloaded results := p.sendDownloaded_of_stopped thread results h
  uploaded uploads := Outbox.sendUploaded_of_stopped thread p.outbox uploads h

/-- The token stops the pipeline. -/
theorem heedsToken (p : Pipeline τ) :
    (∀ q ∈ (Platform.defaults : List (Platform τ)), q.IsPrompt) ∧
      p.HeedsToken thread ∧
      (∀ w, w.stopped = true → p.IsCalledOff thread w) ∧
      ∀ payloads (w : World τ), 2 ≤ payloads.length →
        let uploaded := Outbox.uploadAll thread p.outbox.backoff.retries
          (p.outbox.uploadsOf payloads) w
        (∃ new, uploaded.2.calls = w.calls ++ new ∧
          ∀ r ∈ new, ∃ payload, r.call = .upload thread payload) ∧
        (uploaded.2.stopped = true →
          ∃ e, p.outbox.sendIndexed thread payloads w = (.failed e, uploaded.2)) := by
  refine ⟨fun q => Platform.isPrompt_of_mem_defaults, ?_, fun _ => p.isCalledOff thread, ?_⟩
  · exact
      { extract := p.late_extract
        message := Outbox.isPunctual_sendMessage thread p.outbox
        media := Outbox.late_sendMedia thread p.outbox
        indexed := Outbox.late_sendIndexed thread p.outbox
        items := p.late_deliverItems thread
        sideBySide := fun _ _ => SideBySide.late thread }
  · intro payloads w hseveral
    refine ⟨Outbox.calls_uploadAll thread _ _ w, fun hstopped => ?_⟩
    match payloads, hseveral with
    | q :: r :: payloads, _ =>
      exact Outbox.sendTogether_of_stopped thread p.outbox (q :: r :: payloads) hstopped

structure Alarm where
  left : ℕ

instance : Transport Alarm where
  selfId _ := 1
  textLimit _ := none
  sendText _ _ s := (.accepted () (s.left == 0), ⟨s.left - 1⟩)
  upload _ p s := (.accepted ⟨p.mime, .photo⟩ (s.left == 0), ⟨s.left - 1⟩)
  sendAttachments _ _ s := (.accepted () (s.left == 0), ⟨s.left - 1⟩)

/-- The token fires in the second of two uploads, and nothing is sent; in the upload of a single
payload, and its send is late; or before all, and nothing begins. -/
theorem heedsToken_alarm :
    let p : Pipeline Alarm :=
      { platforms := Platform.defaults, downloader := { maxBytes := 100, concurrency := 2 }
        outbox := { attempts := 3, maxUpload := 100 } }
    let world (left : ℕ) : World Alarm :=
      { network := ⟨fun _ _ => .stops⟩, client := { timeout := 1000 }, messenger := ⟨left⟩ }
    let picture : Payload := ⟨"A".toUTF8, "image/png"⟩
    let payloads := [(1, picture), (2, picture)]
    let uploaded := Outbox.uploadAll 42 p.outbox.backoff.retries (p.outbox.uploadsOf payloads)
      (world 1)
    (∀ link, (p.extract link (world 0)).2.late = []) ∧
      uploaded.2.calls.map (·.verdict) = [.accepted, .accepted] ∧
      (∃ e, p.outbox.sendIndexed 42 payloads (world 1) = (.failed e, uploaded.2)) ∧
      Outbox.LateSend 42 picture (world 0) (p.outbox.sendMedia 42 picture (world 0)).2 ∧
      p.IsCalledOff 42 (world 0).fire := by
  intro p world picture payloads uploaded
  obtain ⟨hdefaults, hheeds, hoff, hseveral⟩ := heedsToken 42 p
  have hlate : (p.outbox.sendMedia 42 picture (world 0)).2.late.length = 1 := by decide +kernel
  refine ⟨fun link => hheeds.extract hdefaults link (world 0), by decide +kernel,
    (hseveral payloads (world 1) (by decide)).2 (by decide +kernel), ?_,
    hoff _ (World.stopped_fire _)⟩
  refine (hheeds.media picture (world 0)).resolve_left fun h => ?_
  rw [h] at hlate
  cases hlate

end Pipeline
end MediaRelay
