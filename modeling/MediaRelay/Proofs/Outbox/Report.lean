import MediaRelay.Proofs.Arrival
import MediaRelay.Proofs.Outbox.Uploads
/-! What an outbox reports of payloads, held against the calls that it made: every payload is either
in the one message that went out, under an attachment that its own upload handed out, or among the
failures. -/

namespace MediaRelay

variable {τ : Type}

namespace Outbox

open CallRecord (uploaded? sent? isUpload)
open Upload (Advance Ends numbered handed?)

variable [Transport τ]

section

variable {P : World τ → Prop} {thread : Thread}

structure Outgoing (P : World τ → Prop) (thread : Thread) : Prop where
  timeless : World.Timeless P
  upload : ∀ p, (uploadOnce (τ := τ) thread p).Preserves P
  send : ∀ attachments, (sendOnce (τ := τ) thread attachments).Preserves P

theorem sendUploaded_of_nil {o : Outbox} {thread : Thread} {us : List Upload}
    (h : us.filterMap Upload.attachment? = []) :
    o.sendUploaded (τ := τ) thread us =
      Job.fail (.allUploadsFailed (MediaError.sortByItem (us.filterMap Upload.failure?))) := by
  simp only [sendUploaded, h]

theorem sendUploaded_of_ne_nil {o : Outbox} {thread : Thread} {us : List Upload}
    (h : us.filterMap Upload.attachment? ≠ []) :
    o.sendUploaded (τ := τ) thread us =
      (o.sendAttachments thread (us.filterMap Upload.attachment?)).bind fun _ =>
        Job.pure { sent := (us.filterMap Upload.attachment?).length
                   failures := MediaError.sortByItem (us.filterMap Upload.failure?) } := by
  obtain ⟨a, as, ha⟩ := List.exists_cons_of_ne_nil h
  simp only [sendUploaded, ha]

theorem Outgoing.sendUploaded (hP : Outgoing P thread) (o : Outbox) (us : List Upload) :
    (o.sendUploaded (τ := τ) thread us).Preserves P := by
  by_cases h : us.filterMap Upload.attachment? = []
  · rw [sendUploaded_of_nil h]
    exact Job.preserves_fail _
  · rw [sendUploaded_of_ne_nil h]
    exact ((hP.send _).retry hP.timeless _).bind fun _ => Job.preserves_pure _

theorem Outgoing.sendIndexed (hP : Outgoing P thread) (o : Outbox) (payloads : List (ℕ × Payload)) :
    (o.sendIndexed (τ := τ) thread payloads).Preserves P := by
  match payloads with
  | [] => exact Job.preserves_pure _
  | [(index, p)] =>
    refine Job.Preserves.mapError (Job.Preserves.bind ?_ fun _ => Job.preserves_pure _) _
    unfold sendMedia
    split
    · exact Job.preserves_fail _
    · exact ((hP.upload p).bind fun a => hP.send [a]).retry hP.timeless _
  | p :: q :: payloads =>
    intro w h
    have hup := preserves_uploadAll hP.upload o.backoff.retries (o.uploadsOf (p :: q :: payloads)) h
    rcases hall : uploadAll thread o.backoff.retries (o.uploadsOf (p :: q :: payloads)) w with
      ⟨us, w₁⟩
    rw [hall] at hup
    simp only [Outbox.sendIndexed, sendTogether, hall]
    exact hP.sendUploaded o _ w₁ hup

end

structure AreUploads (o : Outbox) (thread : Thread) (payloads : List (ℕ × Payload))
    (new : List CallRecord) (us : List Upload) (logs : List (List CallRecord)) : Prop where
  numbered : us.map numbered = payloads
  ends : List.Forall₂ (Ends o thread (Fails thread new (payloads.length = 1))) us logs
  calls : (new.filter (·.isUpload)).Perm logs.flatten

section

variable {o : Outbox} {thread : Thread} {payloads : List (ℕ × Payload)} {new : List CallRecord}
  {us : List Upload} {logs : List (List CallRecord)}

theorem AreUploads.uploaded_perm (h : AreUploads o thread payloads new us logs) :
    (new.filterMap uploaded?).Perm (logs.flatten.filterMap uploaded?) := by
  rw [← CallRecord.filterMap_uploaded?_filter]
  exact h.calls.filterMap _

/-- What uploads have come to was handed out for them. -/
theorem AreUploads.handed (h : AreUploads o thread payloads new us logs) :
    (us.filterMap handed?).Subperm (new.filterMap uploaded?) :=
  (Upload.handed_sublist h.ends).subperm.trans h.uploaded_perm.symm.subperm

/-- Of several payloads, those whose uploads were accepted are those that came through. -/
theorem AreUploads.handed_perm (h : AreUploads o thread payloads new us logs)
    (several : 2 ≤ payloads.length) :
    (us.filterMap handed?).Perm (new.filterMap uploaded?) := by
  rw [Upload.handed_eq h.ends fun p r hr => ?_]
  · exact h.uploaded_perm.symm
  · cases hr with
    | refused => rfl
    | notSent alone sent => omega

end

inductive IsSent (o : Outbox) (thread : Thread) (payloads : List (ℕ × Payload))
    (new : List CallRecord) :
    Outcome SendReport → Prop
  | delivered {us : List Upload} {logs : List (List CallRecord)} {failures : List MediaError}
      (uploads : AreUploads o thread payloads new us logs)
      (failed : failures.Perm (us.filterMap Upload.failure?))
      (some : us.filterMap Upload.attachment? ≠ [])
      (handed : (us.filterMap handed?).Subperm (new.filterMap uploaded?))
      (sent : new.filterMap (sent? .accepted) = [(thread, us.filterMap Upload.attachment?)]) :
      IsSent o thread payloads new
        (.done { sent := (us.filterMap Upload.attachment?).length, failures })
  | nothing {us : List Upload} {logs : List (List CallRecord)} {failures : List MediaError}
      (uploads : AreUploads o thread payloads new us logs)
      (failed : failures.Perm (us.filterMap Upload.failure?))
      (none : us.filterMap Upload.attachment? = [])
      (sent : new.filterMap (sent? .accepted) = []) :
      IsSent o thread payloads new (.failed (.allUploadsFailed failures))
  | refused {us : List Upload} {logs : List (List CallRecord)} {e : TransportError}
      (several : 2 ≤ payloads.length) (uploads : AreUploads o thread payloads new us logs)
      (sent : new.filterMap (sent? .accepted) = [])
      (refused : new.filterMap (sent? .refused) =
        List.replicate (max o.attempts 1) (thread, us.filterMap Upload.attachment?)) :
      IsSent o thread payloads new (.failed (.transport e))
  | crashed {r : CallRecord} (mem : r ∈ new) (crashed : r.verdict = .crashed)
      (single : payloads.length = 1 ∨ ∃ attachments, r.call = .send thread attachments)
      (sent : new.filterMap (sent? .accepted) = []) : IsSent o thread payloads new .crashed

theorem sendIndexed_of_several {o : Outbox} {thread : Thread} {payloads : List (ℕ × Payload)}
    (several : 2 ≤ payloads.length) :
    o.sendIndexed (τ := τ) thread payloads = o.sendTogether thread payloads := by
  match payloads, several with
  | _ :: _ :: _, _ => rfl

/-- Several payloads are uploaded, and then the send of what came through is tried. -/
theorem sendTogether_cases {o : Outbox} {thread : Thread} {payloads : List (ℕ × Payload)}
    {outcome : Outcome SendReport} {w w' : World τ}
    (h : o.sendTogether thread payloads w = (outcome, w')) (hs : w'.stopped = false) :
    ∃ us w₁ new logs, uploadAll thread o.backoff.retries (o.uploadsOf payloads) w = (us, w₁) ∧
      Advance (o.uploadsOf payloads) us (List.replicate payloads.length []) logs w w₁ new ∧
      List.Forall₂ (Ends o thread (Fails thread [] False)) us logs ∧
      let failures := MediaError.sortByItem (us.filterMap Upload.failure?)
      let attachments := us.filterMap Upload.attachment?
      attachments = [] ∧ outcome = .failed (.allUploadsFailed failures) ∧ w' = w₁ ∨
        attachments ≠ [] ∧
          ∃ sent, Job.Tries (sendOnce thread attachments) (max o.attempts 1 - 1) w₁ sent w' ∧
          outcome = sent.map fun () => { sent := attachments.length, failures } := by
  rcases hup : uploadAll thread o.backoff.retries (o.uploadsOf payloads) w with ⟨us, w₁⟩
  simp only [sendTogether, hup, Arrival.inPlace_collect] at h
  have hretries : 0 + o.backoff.retries + 1 = max o.attempts 1 := by
    simp only [backoff, Backoff.immediate]
    omega
  by_cases hnone : us.filterMap Upload.attachment? = []
  · rw [sendUploaded_of_nil hnone] at h
    obtain ⟨rfl, rfl⟩ := Prod.mk.inj h
    obtain ⟨new, logs, hadv, hends⟩ :=
      uploadAll_ends (o.stands_uploadsOf thread payloads) hretries hup hs
    exact ⟨us, _, new, logs, rfl, hadv, hends, .inl ⟨hnone, rfl, rfl⟩⟩
  · rw [sendUploaded_of_ne_nil hnone, Job.bind_pure] at h
    obtain ⟨rfl, rfl⟩ := Prod.mk.inj h
    obtain ⟨hs₁, htries⟩ := Job.tries_of_retry (Job.waitsStopped_call _ _ _) (by rfl) hs
    obtain ⟨new, logs, hadv, hends⟩ :=
      uploadAll_ends (o.stands_uploadsOf thread payloads) hretries hup hs₁
    exact ⟨us, _, new, logs, rfl, hadv, hends, .inr ⟨hnone, _, htries, rfl⟩⟩

/-- What the tries of one message come to: it goes out once and for all, is refused each time, or
crashes. -/
theorem sends_of_tries {thread : Thread} {attachments : List Attachment} {n : ℕ} {w w' : World τ}
    {o : Outcome Unit} (h : Job.Tries (sendOnce thread attachments) n w o w')
    (hs : w'.stopped = false) :
    ∃ new, w'.calls = w.calls ++ new ∧ (∀ r ∈ new, r.isUpload = false) ∧
      (o = .done () ∧ new.filterMap (sent? .accepted) = [(thread, attachments)] ∨
        (∃ e, o = .failed (.transport e) ∧ new.filterMap (sent? .accepted) = [] ∧
          new.filterMap (sent? .refused) = List.replicate (n + 1) (thread, attachments)) ∨
        o = .crashed ∧ new.filterMap (sent? .accepted) = [] ∧
          ∃ r ∈ new, r.verdict = .crashed ∧ r.call = .send thread attachments) := by
  have hrefusals : ∀ k, ∀ r ∈ List.replicate k
      (⟨.send thread attachments, .refused, false, none⟩ : CallRecord), r.isUpload = false := by
    intro k r hr
    rw [List.eq_of_mem_replicate hr]
    rfl
  rcases h.call_cases hs with ⟨⟨⟩, k, -, rfl, hc⟩ | ⟨e, rfl, hc⟩ | ⟨k, -, rfl, hc⟩
  · rw [List.append_assoc] at hc
    exact ⟨_, hc, List.forall_mem_append.2 ⟨hrefusals k, by simp [isUpload]⟩,
      .inl ⟨rfl, by simp [List.filterMap_append, sent?]⟩⟩
  · exact ⟨_, hc, hrefusals _, .inr (.inl ⟨e, rfl, by simp [sent?], by simp [sent?]⟩)⟩
  · rw [List.append_assoc] at hc
    refine ⟨_, hc, List.forall_mem_append.2 ⟨hrefusals k, by simp [isUpload]⟩,
      .inr (.inr ⟨rfl, by simp [List.filterMap_append, sent?], ?_⟩)⟩
    exact ⟨_, List.mem_append_right _ (List.mem_singleton_self _), rfl, rfl⟩

theorem sendTogether_isSent {o : Outbox} {thread : Thread} {payloads : List (ℕ × Payload)}
    {outcome : Outcome SendReport} {w w' : World τ} (several : 2 ≤ payloads.length)
    (h : o.sendTogether thread payloads w = (outcome, w')) (hs : w'.stopped = false) :
    ∃ new, w'.calls = w.calls ++ new ∧ IsSent o thread payloads new outcome := by
  obtain ⟨us, w₁, earlier, logs, -, hadv, hends, hend⟩ := sendTogether_cases h hs
  have hnothing := CallRecord.filterMap_sent?_of_isUpload hadv.uploads
  have hperm := List.mergeSort_perm (us.filterMap Upload.failure?)
    fun a b => a.itemIndex?.getD Word.maxUnsigned ≤ b.itemIndex?.getD Word.maxUnsigned
  have huploads : ∀ later : List CallRecord, (∀ r ∈ later, r.isUpload = false) →
      AreUploads o thread payloads (earlier ++ later) us logs := by
    intro later hlater
    refine ⟨hadv.numbered.trans (o.map_numbered_uploadsOf payloads), ?_, ?_⟩
    · refine hends.imp fun u calls hu => hu.mono fun r hr => ?_
      exact hr.mono (List.nil_subset _) False.elim
    · rw [List.filter_append, List.filter_eq_self.2 hadv.uploads,
        List.filter_eq_nil_iff.2 (by simpa using hlater), List.append_nil]
      simpa using hadv.logs.symm
  rcases hend with ⟨hnone, rfl, rfl⟩ | ⟨hsome, sent, htries, rfl⟩
  · have hall := huploads [] (by simp)
    rw [List.append_nil] at hall
    exact ⟨earlier, hadv.calls, .nothing hall hperm hnone (hnothing _)⟩
  obtain ⟨new, hc, hsends, hsent⟩ := sends_of_tries htries hs
  rw [hadv.calls, List.append_assoc] at hc
  have hall := huploads new hsends
  have hlater : ∀ v, (earlier ++ new).filterMap (sent? v) = new.filterMap (sent? v) := by
    intro v
    rw [List.filterMap_append, hnothing, List.nil_append]
  refine ⟨earlier ++ new, hc, ?_⟩
  rcases hsent with
    ⟨rfl, haccepted⟩ | ⟨e, rfl, hnone, hrefused⟩ | ⟨rfl, hnone, r, hr, hcrashed, hcall⟩
  · exact .delivered hall hperm hsome hall.handed ((hlater _).trans haccepted)
  · have htries : max o.attempts 1 - 1 + 1 = max o.attempts 1 := by omega
    rw [htries] at hrefused
    exact .refused several hall ((hlater _).trans hnone) ((hlater _).trans hrefused)
  · exact .crashed (List.mem_append_right _ hr) hcrashed (.inr ⟨_, hcall⟩) ((hlater _).trans hnone)

inductive IsRound (thread : Thread) (p : Payload) : List CallRecord → Outcome Unit → Prop
  | delivered {a : Attachment} :
      IsRound thread p
        [⟨.upload thread p, .accepted, false, some a⟩, ⟨.send thread [a], .accepted, false, none⟩]
        (.done ())
  | notSent {a : Attachment} {e : TransportError} :
      IsRound thread p
        [⟨.upload thread p, .accepted, false, some a⟩, ⟨.send thread [a], .refused, false, none⟩]
        (.failed (.transport e))
  | notUploaded {e : TransportError} :
      IsRound thread p [⟨.upload thread p, .refused, false, none⟩] (.failed (.transport e))
  | sendCrashed {a : Attachment} :
      IsRound thread p
        [⟨.upload thread p, .accepted, false, some a⟩, ⟨.send thread [a], .crashed, false, none⟩]
        .crashed
  | uploadCrashed : IsRound thread p [⟨.upload thread p, .crashed, false, none⟩] .crashed

theorem isRound_once {thread : Thread} {p : Payload} {w w' : World τ} {o : Outcome Unit}
    (h : ((uploadOnce thread p).bind fun a => sendOnce thread [a]) w = (o, w'))
    (hs : w'.stopped = false) :
    ∃ new, w'.calls = w.calls ++ new ∧ IsRound thread p new o := by
  rcases hup : uploadOnce thread p w with ⟨up, w₁⟩
  simp only [Job.bind, hup] at h
  have hs₁ : w₁.stopped = false := by
    cases up with
    | done a => exact Job.stopped_of_call h hs
    | _ => rwa [(Prod.mk.inj h).2]
  rcases Job.call_cases hup hs₁ with ⟨a, -, rfl, rfl⟩ | ⟨e, -, rfl, rfl⟩ | ⟨-, rfl, rfl⟩
  · rcases Job.call_cases h hs with ⟨⟨⟩, -, rfl, rfl⟩ | ⟨e, -, rfl, rfl⟩ | ⟨-, rfl, rfl⟩
    all_goals
      rw [World.calls_answered, World.calls_answered, List.append_assoc]
    · exact ⟨_, rfl, .delivered⟩
    · exact ⟨_, rfl, .notSent⟩
    · exact ⟨_, rfl, .sendCrashed⟩
  · obtain ⟨rfl, rfl⟩ := Prod.mk.inj h
    exact ⟨_, World.calls_answered _ _ _, .notUploaded⟩
  · obtain ⟨rfl, rfl⟩ := Prod.mk.inj h
    exact ⟨_, World.calls_answered _ _ _, .uploadCrashed⟩

structure FailedRounds (thread : Thread) (p : Payload) (n : ℕ) (calls : List CallRecord) :
    Prop where
  fails : ∀ r ∈ calls.filter (·.isUpload), Fails thread calls True p r
  count : (calls.filter (·.isUpload)).length = n
  unsent : calls.filterMap (sent? .accepted) = []

theorem FailedRounds.nil (thread : Thread) (p : Payload) : FailedRounds thread p 0 [] :=
  ⟨by simp, rfl, rfl⟩

theorem failedRounds_of_isRound {thread : Thread} {p : Payload} {calls : List CallRecord}
    {e : MediaError} (h : IsRound thread p calls (.failed e)) : FailedRounds thread p 1 calls := by
  cases h with
  | notSent =>
    refine ⟨?_, rfl, rfl⟩
    intro r hr
    obtain rfl := List.mem_singleton.1 hr
    exact .notSent trivial (by simp)
  | notUploaded =>
    refine ⟨?_, rfl, rfl⟩
    intro r hr
    obtain rfl := List.mem_singleton.1 hr
    exact .refused

theorem FailedRounds.append {thread : Thread} {p : Payload} {m n : ℕ}
    {calls calls' : List CallRecord} (h : FailedRounds thread p m calls)
    (h' : FailedRounds thread p n calls') : FailedRounds thread p (m + n) (calls ++ calls') where
  fails := by
    rw [List.filter_append]
    exact List.forall_mem_append.2
      ⟨fun r hr => (h.fails r hr).mono (List.subset_append_left _ _) id,
        fun r hr => (h'.fails r hr).mono (List.subset_append_right _ _) id⟩
  count := by rw [List.filter_append, List.length_append, h.count, h'.count]
  unsent := by rw [List.filterMap_append, h.unsent, h'.unsent, List.append_nil]

/-- Rounds that fail come before the last one, which fails only as the last that there is. -/
theorem rounds_of_tries {thread : Thread} {p : Payload} {n : ℕ} {w w' : World τ} {o : Outcome Unit}
    (h : Job.Tries ((uploadOnce thread p).bind fun a => sendOnce thread [a]) n w o w')
    (hs : w'.stopped = false) :
    ∃ k earlier last, w'.calls = w.calls ++ (earlier ++ last) ∧ FailedRounds thread p k earlier ∧
      IsRound thread p last o ∧ k ≤ n ∧ ∀ e, o = .failed e → k = n := by
  induction h with
  | last h hlast =>
    obtain ⟨last, hc, hround⟩ := isRound_once h hs
    refine ⟨0, [], last, hc, .nil thread p, hround, Nat.zero_le _, fun e he => ?_⟩
    subst he
    cases hround <;> exact (hlast _ rfl rfl).symm
  | again h hs₁ _ _ ih =>
    obtain ⟨first, hc₁, hround₁⟩ := isRound_once h hs₁
    obtain ⟨k, earlier, last, hc, hfailed, hround, hle, hall⟩ := ih hs
    refine ⟨1 + k, first ++ earlier, last, ?_, (failedRounds_of_isRound hround₁).append hfailed,
      hround, by omega, fun e he => ?_⟩
    · rw [hc, hc₁]
      simp only [List.append_assoc]
    · have := hall e he
      omega

theorem waitsStopped_round (thread : Thread) (p : Payload) :
    ((uploadOnce (τ := τ) thread p).bind fun a => sendOnce thread [a]).WaitsStopped := by
  intro w w' h
  by_contra hs
  obtain ⟨_, -, hround⟩ := isRound_once h (by simpa using hs)
  cases hround

/-- A single payload whose upload ended so is all that there is to upload. -/
theorem areUploads_single {o : Outbox} {thread : Thread} {index : ℕ} {p : Payload}
    {new : List CallRecord} {result : Option (Except MediaError Attachment)}
    (h : o.UploadEnds thread (Fails thread new True) p (new.filter (·.isUpload)) result) :
    AreUploads o thread [(index, p)] new [{ index, payload := p, result }]
      [new.filter (·.isUpload)] where
  numbered := rfl
  ends := .cons (h.mono fun _ hr => hr.mono (List.Subset.refl _) fun _ => rfl) .nil
  calls := by simp

/-- A single payload that is not sent is reported with its last failure. -/
theorem isSent_of_error {o : Outbox} {thread : Thread} {index : ℕ} {p : Payload}
    {new : List CallRecord} {e : MediaError}
    (h : o.UploadEnds thread (Fails thread new True) p (new.filter (·.isUpload))
      (some (.error e)))
    (unsent : new.filterMap (sent? .accepted) = []) :
    IsSent o thread [(index, p)] new
      (.failed (.allUploadsFailed [.uploadFailed index e.message])) :=
  .nothing (areUploads_single h) (.refl _) rfl unsent

section

variable {o : Outbox} {thread : Thread} {index : ℕ} {p : Payload} {k : ℕ}
  {earlier last : List CallRecord}

theorem isSent_of_delivered {a : Attachment} (fits : p.size ≤ o.maxUpload)
    (hfailed : FailedRounds thread p k earlier) (hk : k < max o.attempts 1) :
    IsSent o thread [(index, p)]
      (earlier ++
        [⟨.upload thread p, .accepted, false, some a⟩, ⟨.send thread [a], .accepted, false, none⟩])
      (.done { sent := 1 }) := by
  set last : List CallRecord :=
    [⟨.upload thread p, .accepted, false, some a⟩, ⟨.send thread [a], .accepted, false, none⟩]
  have huploads : (earlier ++ last).filter (·.isUpload) = earlier.filter (·.isUpload) ++
      [⟨.upload thread p, .accepted, false, some a⟩] := List.filter_append _ _
  have hends : o.UploadEnds thread (Fails thread (earlier ++ last) True) p
      ((earlier ++ last).filter (·.isUpload)) (some (.ok a)) := by
    rw [huploads]
    refine .accepted fits (fun r hr => ?_) (hfailed.count ▸ hk)
    exact (hfailed.fails r hr).mono (List.subset_append_left _ _) id
  have hall : AreUploads o thread [(index, p)] _ _ _ := areUploads_single hends
  refine .delivered hall (.refl _) (by simp [Upload.attachment?]) hall.handed ?_
  rw [List.filterMap_append, hfailed.unsent]
  rfl

/-- The last round failed like all others. -/
theorem isSent_of_refused {e : TransportError} (fits : p.size ≤ o.maxUpload)
    (hfailed : FailedRounds thread p k earlier)
    (hlast : IsRound thread p last (.failed (.transport e))) (hk : k + 1 = max o.attempts 1) :
    IsSent o thread [(index, p)] (earlier ++ last)
      (.failed (.allUploadsFailed [.uploadFailed index (MediaError.transport e).message])) := by
  have hrounds := hfailed.append (failedRounds_of_isRound hlast)
  exact isSent_of_error (.refused fits hrounds.fails (hrounds.count.trans hk)) hrounds.unsent

theorem isSent_of_crashed (hfailed : FailedRounds thread p k earlier) {r : CallRecord}
    (mem : r ∈ last) (crashed : r.verdict = .crashed)
    (unsent : last.filterMap (sent? .accepted) = []) :
    IsSent o thread [(index, p)] (earlier ++ last) .crashed := by
  refine .crashed (List.mem_append_right _ mem) crashed (.inl rfl) ?_
  rw [List.filterMap_append, hfailed.unsent, unsent, List.append_nil]

end

theorem sendSingle_isSent {o : Outbox} {thread : Thread} {index : ℕ} {p : Payload}
    {outcome : Outcome SendReport} {w w' : World τ}
    (h : o.sendSingle thread index p w = (outcome, w')) (hs : w'.stopped = false) :
    ∃ new, w'.calls = w.calls ++ new ∧ IsSent o thread [(index, p)] new outcome := by
  by_cases hlarge : p.size > o.maxUpload
  · have hover : o.oversized? p = some (.oversizedPayload p.size o.maxUpload) := if_pos hlarge
    simp only [sendSingle, sendMedia, hover] at h
    obtain ⟨rfl, rfl⟩ := Prod.mk.inj h
    exact ⟨[], (List.append_nil _).symm, isSent_of_error (.tooLarge hlarge) rfl⟩
  have hnone : o.oversized? p = none := if_neg hlarge
  rcases hretry : Job.retry o.backoff
      ((uploadOnce thread p).bind fun a => sendOnce thread [a]) w with ⟨round, w₁⟩
  simp only [sendSingle, sendMedia, hnone, Job.mapError, Job.bind, hretry] at h
  obtain rfl : w₁ = w' := by
    cases round <;> exact (Prod.mk.inj h).2
  obtain ⟨-, htries⟩ := Job.tries_of_retry (waitsStopped_round thread p) hretry hs
  obtain ⟨k, earlier, last, hc, hfailed, hround, hle, hall⟩ := rounds_of_tries htries hs
  refine ⟨earlier ++ last, hc, ?_⟩
  have hfits : p.size ≤ o.maxUpload := Nat.le_of_not_lt hlarge
  cases hround with
  | delivered =>
    obtain ⟨rfl, -⟩ := Prod.mk.inj h
    exact isSent_of_delivered hfits hfailed (by omega)
  | @notSent a e =>
    obtain ⟨rfl, -⟩ := Prod.mk.inj h
    have hk := hall _ rfl
    exact isSent_of_refused hfits hfailed (.notSent (e := e)) (by omega)
  | @notUploaded e =>
    obtain ⟨rfl, -⟩ := Prod.mk.inj h
    have hk := hall _ rfl
    exact isSent_of_refused hfits hfailed (.notUploaded (e := e)) (by omega)
  | sendCrashed =>
    obtain ⟨rfl, -⟩ := Prod.mk.inj h
    exact isSent_of_crashed hfailed (.tail _ (.head _)) rfl rfl
  | uploadCrashed =>
    obtain ⟨rfl, -⟩ := Prod.mk.inj h
    exact isSent_of_crashed hfailed (.head _) rfl rfl

/-- Every send of payloads is accounted for. -/
theorem sendIndexed_isSent {o : Outbox} {thread : Thread} {payloads : List (ℕ × Payload)}
    {outcome : Outcome SendReport} {w w' : World τ} (hne : payloads ≠ [])
    (h : o.sendIndexed thread payloads w = (outcome, w')) (hs : w'.stopped = false) :
    ∃ new, w'.calls = w.calls ++ new ∧ IsSent o thread payloads new outcome := by
  match payloads, hne with
  | [(index, p)], _ => exact sendSingle_isSent h hs
  | p :: q :: payloads, _ => exact sendTogether_isSent (by simp) h hs

end Outbox
end MediaRelay
