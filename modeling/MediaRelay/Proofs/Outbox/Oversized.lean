import MediaRelay.Proofs.List
import MediaRelay.Proofs.Outbox.Budget
/-! What an outbox reports of payloads that are too large. Their uploads are settled before any of
them begins, with a failure that names size and limit, and nothing else that can go wrong with an
upload is worded like it. -/

namespace MediaRelay.Outbox

variable {τ : Type} {o : Outbox}

/-- The failures with which a send of several payloads ends, if it ends with any account of them. -/
def failuresOf? : Outcome SendReport → Option (List MediaError)
  | .done report => some report.failures
  | .failed (.allUploadsFailed failures) => some failures
  | _ => none

def oversizedEntry (o : Outbox) (q : ℕ × Payload) : MediaError :=
  .uploadFailed q.1 s!"payload too large ({q.2.size} bytes, max {o.maxUpload})"

/-- Failures that hold one entry for each payload that is too large. Of the other payloads each has
one at most, and these tell of something else. -/
structure NamesOversized (o : Outbox) (payloads : List (ℕ × Payload))
    (failures : List MediaError) : Prop where
  entries : ∃ others,
    failures.Perm ((payloads.filter (o.maxUpload < ·.2.size)).map o.oversizedEntry ++ others) ∧
    (others.filterMap MediaError.itemIndex?).Sublist
      ((payloads.filter (·.2.size ≤ o.maxUpload)).map (·.1)) ∧
    ∀ e ∈ others, ∃ index reason, e = .uploadFailed index reason ∧
      ∀ size limit, reason ≠ (MediaError.oversizedPayload size limit).message
  single : (payloads.map (·.1)).Nodup → ∀ q ∈ payloads, o.maxUpload < q.2.size →
    failures.filter (·.itemIndex? == some q.1) = [o.oversizedEntry q]

theorem head?_append_toList {s : String} {c : Char} (h : s.toList.head? = some c) (t : String) :
    (s ++ t).toList.head? = some c := by
  rw [String.toList_append, List.head?_append, h]
  rfl

theorem head?_oversized (size limit : ℕ) :
    (MediaError.oversizedPayload size limit).message.toList.head? = some 'p' := by
  change (s!"payload too large ({size} bytes, max {limit})").toList.head? = some 'p'
  iterate 4 apply head?_append_toList
  decide +kernel

theorem head?_transport (c : TransportError) : c.message.toList.head? ≠ some 'p' := by
  have ne_of {s : String} {a : Char} (h : s.toList.head? = some a) (ha : a ≠ 'p') :
      s.toList.head? ≠ some 'p' := by
    rw [h]
    simpa using ha
  cases c with
  | telegram cause =>
    exact ne_of (head?_append_toList (c := 't') (by decide +kernel) _) (by decide)
  | missingAttachment =>
    change "upload response carried no attachment id".toList.head? ≠ some 'p'
    decide +kernel
  | rejected reason =>
    exact ne_of (head?_append_toList (c := 'r') (by decide +kernel) _) (by decide)

theorem index_of_failure? {u : Upload} {e : MediaError} (h : u.failure? = some e) :
    ∃ reason, e = .uploadFailed u.index reason := by
  rw [Upload.failure?] at h
  split at h
  · cases h
  · exact ⟨_, (Option.some.inj h).symm⟩
  · exact ⟨_, (Option.some.inj h).symm⟩

namespace UploadTask

variable {t : UploadTask}

theorem Fits.failure?_of_oversized (h : t.Fits o) (hbig : o.maxUpload < t.upload.payload.size) :
    t.upload.failure? = some (o.oversizedEntry t.upload.numbered) := by
  rw [Upload.failure?, h.oversized hbig]
  rfl

/-- A payload that is not too large fails for another reason. -/
theorem Fits.failure?_of_le (h : t.Fits o) (hsize : t.upload.payload.size ≤ o.maxUpload)
    {e : MediaError} (he : t.upload.failure? = some e) :
    ∃ index reason, e = .uploadFailed index reason ∧
      ∀ size limit, reason ≠ (MediaError.oversizedPayload size limit).message := by
  have of_head {reason : String} (hreason : reason.toList.head? ≠ some 'p') (size limit : ℕ) :
      reason ≠ (MediaError.oversizedPayload size limit).message := by
    rintro rfl
    exact hreason (head?_oversized size limit)
  rw [Upload.failure?] at he
  split at he
  · cases he
  case h_2 cause hresult =>
    refine ⟨_, _, (Option.some.inj he).symm, of_head ?_⟩
    rcases h.cause hsize cause hresult with rfl | ⟨c, rfl⟩
    · change "cancelled".toList.head? ≠ some 'p'
      decide +kernel
    · exact head?_transport c
  · refine ⟨_, _, (Option.some.inj he).symm, of_head ?_⟩
    decide +kernel

end UploadTask

theorem IsUnderWay.namesOversized {payloads : List (ℕ × Payload)} {w w' : World τ}
    {ts : List UploadTask} (h : IsUnderWay o payloads w ts w') {failures : List MediaError}
    (hperm : failures.Perm (ts.filterMap (·.upload.failure?))) :
    o.NamesOversized payloads failures where
  entries := by
    let big (t : UploadTask) : Bool := o.maxUpload < t.upload.payload.size
    have hbig : (ts.filter big).filterMap (·.upload.failure?) =
        (payloads.filter (o.maxUpload < ·.2.size)).map o.oversizedEntry := by
      rw [← h.numbered, List.filter_map, List.map_map, ← List.filterMap_eq_map]
      refine List.filterMap_congr fun t ht => ?_
      obtain ⟨ht, hsize⟩ := List.mem_filter.1 ht
      exact (h.fits t ht).failure?_of_oversized (by simpa [big] using hsize)
    have hsmall : (payloads.filter (·.2.size ≤ o.maxUpload)).map (·.1) =
        (ts.filter fun t => !big t).map (·.upload.index) := by
      have hnot : ((fun q : ℕ × Payload => decide (q.2.size ≤ o.maxUpload)) ∘
          fun t : UploadTask => t.upload.numbered) = fun t => !big t := by
        funext t
        exact (decide_eq_decide.2 Nat.not_lt.symm).trans (decide_not ..)
      rw [← h.numbered, List.filter_map, List.map_map, hnot]
      rfl
    refine ⟨(ts.filter fun t => !big t).filterMap (·.upload.failure?), ?_, ?_, ?_⟩
    · rw [← hbig, ← List.filterMap_append]
      exact hperm.trans ((List.filter_append_perm big ts).filterMap _).symm
    · rw [hsmall, List.filterMap_filterMap]
      refine filterMap_sublist_map fun t _ index hindex => ?_
      obtain ⟨e, he, hindex⟩ := Option.bind_eq_some_iff.1 hindex
      obtain ⟨reason, rfl⟩ := index_of_failure? he
      exact (Option.some.inj hindex).symm
    · intro e he
      obtain ⟨t, ht, hfail⟩ := List.mem_filterMap.1 he
      obtain ⟨ht, hsize⟩ := List.mem_filter.1 ht
      exact (h.fits t ht).failure?_of_le (by simpa [big] using hsize) hfail
  single hnodup q hq hsize := by
    rw [← h.numbered] at hq hnodup
    obtain ⟨t, ht, rfl⟩ := List.mem_map.1 hq
    rw [List.map_map] at hnodup
    have halone : ts.filter (·.upload.index == t.upload.index) = [t] :=
      filter_eq_singleton hnodup ht
    have hown : (ts.filterMap (·.upload.failure?)).filter (·.itemIndex? == some t.upload.index) =
        (ts.filter (·.upload.index == t.upload.index)).filterMap (·.upload.failure?) := by
      rw [List.filter_filterMap, List.filterMap_filter]
      refine List.filterMap_congr fun t' _ => ?_
      cases he : t'.upload.failure? with
      | none => simp
      | some e =>
        obtain ⟨reason, rfl⟩ := index_of_failure? he
        by_cases hindex : t'.upload.index = t.upload.index <;>
          simp [Option.filter, MediaError.itemIndex?, hindex]
    have hfail := (h.fits t ht).failure?_of_oversized hsize
    rw [← List.perm_singleton]
    refine (hperm.filter _).trans ?_
    change ((ts.filterMap _).filter
      fun e : MediaError => e.itemIndex? == some t.upload.index).Perm _
    rw [hown, halone, List.filterMap_cons, hfail]
    exact .refl _

/-- Tasks whose payloads are sent in the end report each one that is too large. -/
theorem IsUnderWay.namesOversized_sorted {payloads : List (ℕ × Payload)} {w w' : World τ}
    {ts : List UploadTask} (h : IsUnderWay o payloads w ts w') :
    o.NamesOversized payloads
      (MediaError.sortByItem (ts.filterMap (·.upload.failure?))) :=
  h.namesOversized (List.mergeSort_perm _ _)

variable [Transport τ] {thread : Thread}

/-- Failures of a send that goes out, or of one that does not, are those of its uploads. -/
theorem failures_of_sendUploaded {us : List Upload} {w : World τ} {failures : List MediaError}
    (h : failuresOf? (o.sendUploaded thread us w).1 = some failures) :
    failures = MediaError.sortByItem (us.filterMap Upload.failure?) := by
  by_cases hnil : us.filterMap Upload.attachment? = []
  · rw [sendUploaded_of_nil hnil] at h
    exact (Option.some.inj h).symm
  · rw [sendUploaded_of_ne_nil hnil, Job.bind_pure] at h
    rcases hsend : o.sendAttachments thread (us.filterMap Upload.attachment?) w with ⟨out, w₁⟩
    rw [hsend] at h
    cases out with
    | done _ => exact (Option.some.inj h).symm
    | failed e =>
      -- the send itself fails in the words of the platform
      rcases Job.retry_failed hsend with rfl | ⟨w₂, hlast⟩
      · cases h
      · obtain ⟨c, rfl⟩ := Job.cause_call hlast
        cases h
    | waiting => cases h
    | crashed => cases h

theorem namesOversized_sendIndexed {payloads : List (ℕ × Payload)} (hseveral : 2 ≤ payloads.length)
    {w : World τ} {failures : List MediaError}
    (h : failuresOf? (o.sendIndexed thread payloads w).1 = some failures) :
    o.NamesOversized payloads failures := by
  match payloads, hseveral with
  | p :: q :: payloads, _ =>
    obtain ⟨ts, hups, hrace⟩ := race_uploadAll o thread (p :: q :: payloads) w
    have hsend : o.sendIndexed thread (p :: q :: payloads) w = _ :=
      o.sendTogether_eq thread (p :: q :: payloads) w
    rw [hsend] at h
    rw [failures_of_sendUploaded h, ← hups, List.filterMap_map]
    exact hrace.isUnderWay.namesOversized_sorted

end MediaRelay.Outbox
