import MediaRelay.Proofs.Outbox.Message
import MediaRelay.Proofs.Outbox.Report
import MediaRelay.Proofs.Token
/-! What an outbox calls once the token has fired: nothing, but for a single payload whose upload
was accepted while the token fired. Its send follows in the same try, and is the last call. -/

namespace MediaRelay.Outbox

variable {τ : Type} {thread : Thread}

/-- The one call that a single payload may still come to: its send, after the upload in which the
token fired. -/
def LateSend (thread : Thread) (p : Payload) (w w' : World τ) : Prop :=
  ∃ (a : Attachment) (before : List CallRecord) (last : CallRecord),
    last.call = .send thread [a] ∧
    w'.calls = w.calls ++ before ++ [⟨.upload thread p, .accepted, true, some a⟩, last] ∧
    w'.late = w.late ++ [.call (.send thread [a])]

theorem LateSend.of_earlier {p : Payload} {w w₁ w' : World τ} {new : List CallRecord}
    (h : LateSend thread p w₁ w') (hcalls : w₁.calls = w.calls ++ new) (hlate : w₁.late = w.late) :
    LateSend thread p w w' := by
  obtain ⟨a, before, last, hlast, hall, hsend⟩ := h
  exact ⟨a, new ++ before, last, hlast, by rw [hall, hcalls, List.append_assoc w.calls],
    by rw [hsend, hlate]⟩

theorem LateSend.of_later {p : Payload} {w w₁ w' : World τ} (h : LateSend thread p w w₁)
    (hcalls : w'.calls = w₁.calls) (hlate : w'.late = w₁.late) : LateSend thread p w w' := by
  obtain ⟨a, before, last, hlast, hall, hsend⟩ := h
  exact ⟨a, before, last, hlast, hcalls.trans hall, hlate.trans hsend⟩

variable [Transport τ] (thread)

/-! ### Texts -/

theorem isPunctual_sendPieces (o : Outbox) (pieces : List String) :
    (o.sendPieces thread pieces : Job τ Unit).IsPunctual := by
  induction pieces with
  | nil => exact Job.isPunctual_pure ()
  | cons piece rest ih => exact ((Job.isTimely_call _ _ _).retry _).bind fun _ => ih

theorem isPunctual_sendMessage (o : Outbox) (text : String) :
    (o.sendMessage thread text : Job τ Unit).IsPunctual := fun w =>
  isPunctual_sendPieces thread o (textPieces (Transport.textLimit w.messenger) text) w

theorem sendMessage_of_stopped (o : Outbox) (text : String) {w : World τ} (h : w.stopped = true) :
    o.sendMessage thread text w = (.failed .cancelled, w) := by
  obtain ⟨piece, rest, hpieces⟩ :=
    List.exists_cons_of_ne_nil (textPieces_ne_nil (Transport.textLimit w.messenger) text)
  simp only [sendMessage, hpieces, sendPieces, Job.bind, Job.retry_of_stopped _ _ h]

/-! ### Uploads side by side -/

namespace Upload

/-- What the token makes of an upload: it is settled as cancelled, unless it was settled before. -/
def calledOff (u : Upload) : Upload := if u.settled then u else u.settle (.error .cancelled)

theorem settled_calledOff (u : Upload) : u.calledOff.settled = true := by
  unfold calledOff
  split_ifs with h
  · exact h
  · simp [settled, settle]

theorem calledOff_of_settled {u : Upload} (h : u.settled = true) : u.calledOff = u := if_pos h

end Upload

/-- The next try of an upload looks at the token, whatever the others have done before. -/
theorem late_tryUpload (more : Bool) (u : Upload) (w : World τ) :
    (tryUpload thread more u w).2.late = w.late := by
  rw [tryUpload]
  split_ifs with hset hstop
  · rfl
  · rfl
  · have hlate := Job.isTimely_call (.upload thread u.payload) (Transport.upload thread u.payload)
      some w (by simpa using hstop)
    rcases hup : uploadOnce thread u.payload w with ⟨o, w₁⟩
    rw [uploadOnce] at hup
    rw [hup] at hlate
    cases o <;> exact hlate

theorem late_tryUploads (more : Bool) (us : List Upload) (w : World τ) :
    (tryUploads thread more us w).2.late = w.late := by
  induction us generalizing w with
  | nil => rfl
  | cons u us ih => exact (ih _).trans (late_tryUpload thread more u w)

theorem late_uploadAll (retries : ℕ) (us : List Upload) (w : World τ) :
    (uploadAll thread retries us w).2.late = w.late := by
  induction retries generalizing us w with
  | zero =>
    rw [uploadAll]
    split_ifs
    · rfl
    · exact late_tryUploads thread false us w
  | succ retries ih =>
    rw [uploadAll]
    split_ifs
    · rfl
    · exact (ih _ _).trans (late_tryUploads thread true us w)

theorem tryUpload_of_stopped (more : Bool) (u : Upload) {w : World τ} (h : w.stopped = true) :
    tryUpload thread more u w = (u.calledOff, w) := by
  rw [tryUpload, Upload.calledOff]
  split_ifs <;> rfl

theorem tryUploads_of_stopped (more : Bool) (us : List Upload) {w : World τ}
    (h : w.stopped = true) :
    tryUploads thread more us w = (us.map Upload.calledOff, w) := by
  induction us with
  | nil => rfl
  | cons u us ih => simp only [tryUploads, tryUpload_of_stopped thread more u h, ih, List.map_cons]

theorem uploadAll_of_stopped (retries : ℕ) (us : List Upload) {w : World τ}
    (h : w.stopped = true) :
    uploadAll thread retries us w = (us.map Upload.calledOff, w) := by
  have hall (us : List Upload) (hus : us.all Upload.settled = true) :
      us.map Upload.calledOff = us :=
    (List.map_congr_left fun u hu =>
      Upload.calledOff_of_settled (List.all_eq_true.1 hus u hu)).trans (List.map_id us)
  cases retries with
  | zero =>
    rw [uploadAll]
    split_ifs with hset
    · rw [hall us hset]
    · exact tryUploads_of_stopped thread false us h
  | succ retries =>
    rw [uploadAll]
    split_ifs with hset
    · rw [hall us hset]
    · have hcalled : (us.map Upload.calledOff).all Upload.settled = true := by
        simp [List.all_map, Upload.settled_calledOff]
      simp only [tryUploads_of_stopped thread true us h]
      cases retries <;> simp [uploadAll, hcalled]

/-- Work that makes no call but uploads. -/
theorem calls_uploadAll (retries : ℕ) (us : List Upload) (w : World τ) :
    ∃ new, (uploadAll thread retries us w).2.calls = w.calls ++ new ∧
      ∀ r ∈ new, ∃ p, r.call = .upload thread p := by
  refine preserves_uploadAll
    (P := fun w' : World τ => ∃ new, w'.calls = w.calls ++ new ∧
      ∀ r ∈ new, ∃ p, r.call = .upload thread p) (fun p w' hw' => ?_) retries us
    ⟨[], (List.append_nil _).symm, by simp⟩
  obtain ⟨new, hnew, huploads⟩ := hw'
  obtain ⟨r, hr, hcalls⟩ :=
    Job.exists_record_call (.upload thread p) (Transport.upload thread p) some w'
  refine ⟨new ++ [r], by rw [uploadOnce, hcalls, hnew, List.append_assoc], ?_⟩
  rw [List.forall_mem_append]
  exact ⟨huploads, by simpa using ⟨p, hr⟩⟩

theorem isPunctual_sendUploaded (o : Outbox) (us : List Upload) :
    (o.sendUploaded thread us : Job τ SendReport).IsPunctual := by
  by_cases h : us.filterMap Upload.attachment? = []
  · rw [sendUploaded_of_nil h]
    exact Job.isPunctual_fail _
  · rw [sendUploaded_of_ne_nil h]
    exact ((Job.isTimely_call _ _ _).retry _).bind fun _ => Job.isPunctual_pure _

theorem sendUploaded_of_stopped (o : Outbox) (us : List Upload) {w : World τ}
    (h : w.stopped = true) :
    ∃ e, o.sendUploaded thread us w = (.failed e, w) := by
  by_cases hnil : us.filterMap Upload.attachment? = []
  · rw [sendUploaded_of_nil hnil]
    exact ⟨_, rfl⟩
  · rw [sendUploaded_of_ne_nil hnil, sendAttachments]
    exact ⟨.cancelled, by simp only [Job.bind, Job.retry_of_stopped _ _ h]⟩

theorem isPunctual_sendTogether (o : Outbox) (payloads : List (ℕ × Payload)) :
    (o.sendTogether thread payloads : Job τ SendReport).IsPunctual := by
  intro w
  have hlate := late_uploadAll thread o.backoff.retries (o.uploadsOf payloads) w
  rcases hup : uploadAll thread o.backoff.retries (o.uploadsOf payloads) w with ⟨us, w₁⟩
  rw [hup] at hlate
  simp only [sendTogether, hup]
  exact (isPunctual_sendUploaded thread o _ w₁).trans hlate

/-- Where the token fires before all uploads have ended, nothing is sent. -/
theorem sendTogether_of_stopped (o : Outbox) (payloads : List (ℕ × Payload)) {w : World τ}
    (h : (uploadAll thread o.backoff.retries (o.uploadsOf payloads) w).2.stopped = true) :
    ∃ e, o.sendTogether thread payloads w =
      (.failed e, (uploadAll thread o.backoff.retries (o.uploadsOf payloads) w).2) := by
  rcases hup : uploadAll thread o.backoff.retries (o.uploadsOf payloads) w with ⟨us, w₁⟩
  rw [hup] at h
  simp only [sendTogether, hup]
  exact sendUploaded_of_stopped thread o _ h

/-! ### One payload -/

/-- A try of a payload that begins before the token has fired makes no call that is late, or ends
with its late send. -/
theorem late_tryMedia (p : Payload) {w w' : World τ} {o : Outcome Unit} (hw : w.stopped = false)
    (h : ((uploadOnce thread p).bind fun a => sendOnce thread [a]) w = (o, w')) :
    (w'.late = w.late ∧ ∃ new, w'.calls = w.calls ++ new) ∨
      (LateSend thread p w w' ∧ w'.stopped = true) := by
  obtain ⟨r, -, hcalls⟩ :=
    Job.exists_record_call (.upload thread p) (Transport.upload thread p) some w
  have hlate := Job.isTimely_call (.upload thread p) (Transport.upload thread p) some w hw
  rcases hup : uploadOnce thread p w with ⟨o₁, w₁⟩
  simp only [Job.bind, hup] at h
  rw [uploadOnce] at hup
  rw [hup] at hlate hcalls
  cases o₁ with
  | done a =>
    have hsend := Job.late_call (.send thread [a]) (Transport.sendAttachments thread [a])
      (fun () => none) w₁
    obtain ⟨last, hlast, hrecord⟩ := Job.exists_record_call (.send thread [a])
      (Transport.sendAttachments thread [a]) (fun () => none) w₁
    have hstill := Job.stopped_call (.send thread [a]) (Transport.sendAttachments thread [a])
      (fun () => none) (w := w₁)
    change Job.call _ _ _ w₁ = (o, w') at h
    rw [h] at hsend hrecord hstill
    have hdone := Job.call_done hup hw
    cases hw₁ : w₁.stopped with
    | false =>
      rw [World.lateWith_of_not_stopped hw₁, hlate] at hsend
      rw [hdone, List.append_assoc] at hrecord
      exact .inl ⟨hsend, _, hrecord⟩
    | true =>
      rw [World.lateWith, if_pos hw₁, hlate] at hsend
      rw [hw₁] at hdone
      rw [hdone, List.append_assoc] at hrecord
      exact .inr ⟨⟨a, [], last, hlast, by rw [List.append_nil]; exact hrecord, hsend⟩,
        hstill hw₁⟩
  | _ =>
    obtain ⟨-, rfl⟩ := Prod.mk.inj h
    exact .inl ⟨hlate, _, hcalls⟩

/-- No try follows one in which the token fired. -/
theorem late_retriedMedia (p : Payload) {w w' : World τ} {o : Outcome Unit}
    (hr : Job.Retried ((uploadOnce thread p).bind fun a => sendOnce thread [a]) w o w')
    (hw : w.stopped = false) :
    (w'.late = w.late ∧ ∃ new, w'.calls = w.calls ++ new) ∨ LateSend thread p w w' := by
  induction hr with
  | last h => exact (late_tryMedia thread p hw h).imp_right And.left
  | waits h hsleep =>
    have hcalls := World.calls_of_sleep hsleep
    have hlate := World.late_of_sleep hsleep
    rcases late_tryMedia thread p hw h with ⟨hsame, new, hnew⟩ | ⟨hsend, -⟩
    · exact .inl ⟨hlate.trans hsame, new, hcalls.trans hnew⟩
    · exact .inr (hsend.of_later hcalls hlate)
  | again h hsleep _ ih =>
    rcases late_tryMedia thread p hw h with ⟨hsame, new, hnew⟩ | ⟨-, hstopped⟩
    · have hcalls := (World.calls_of_sleep hsleep).trans hnew
      have hlate := (World.late_of_sleep hsleep).trans hsame
      rcases ih (World.stopped_of_sleep hsleep) with ⟨hrest, new', hnew'⟩ | hsend
      · exact .inl ⟨hrest.trans hlate, new ++ new', by rw [hnew', hcalls, List.append_assoc]⟩
      · exact .inr (hsend.of_earlier hcalls hlate)
    · rw [World.sleep_of_stopped hstopped] at hsleep
      cases hsleep

theorem sendMedia_of_stopped (o : Outbox) {p : Payload} (hp : o.oversized? p = none) {w : World τ}
    (h : w.stopped = true) :
    o.sendMedia thread p w = (.failed .cancelled, w) := by
  simp only [sendMedia, hp, Job.retry_of_stopped _ _ h]

theorem sendMedia_of_oversized (o : Outbox) {p : Payload} {e : MediaError}
    (hp : o.oversized? p = some e) (w : World τ) :
    o.sendMedia thread p w = (.failed e, w) := by
  simp only [sendMedia, hp, Job.fail]

theorem late_sendMedia (o : Outbox) (p : Payload) (w : World τ) :
    (o.sendMedia thread p w).2.late = w.late ∨ LateSend thread p w (o.sendMedia thread p w).2 := by
  cases hp : o.oversized? p with
  | some e =>
    rw [sendMedia_of_oversized thread o hp]
    exact .inl rfl
  | none =>
    cases hw : w.stopped with
    | true =>
      rw [sendMedia_of_stopped thread o hp hw]
      exact .inl rfl
    | false =>
      obtain ⟨_, hr⟩ := Job.retried_of_retry o.backoff
        ((uploadOnce thread p).bind fun a => sendOnce thread [a]) hw
      simp only [sendMedia, hp]
      exact (late_retriedMedia thread p hr hw).imp_left And.left

/-! ### Payloads under their numbers -/

theorem snd_sendSingle (o : Outbox) (index : ℕ) (p : Payload) (w : World τ) :
    (o.sendSingle thread index p w).2 = (o.sendMedia thread p w).2 := by
  simp only [sendSingle, Job.mapError, Job.bind_pure]
  cases (o.sendMedia thread p w).1 <;> rfl

theorem late_sendIndexed (o : Outbox) (payloads : List (ℕ × Payload)) (w : World τ) :
    (o.sendIndexed thread payloads w).2.late = w.late ∨
      ∃ index p, payloads = [(index, p)] ∧
        LateSend thread p w (o.sendIndexed thread payloads w).2 := by
  match payloads with
  | [] => exact .inl rfl
  | [(index, p)] =>
    have hsnd : (o.sendIndexed thread [(index, p)] w).2 = (o.sendMedia thread p w).2 :=
      snd_sendSingle thread o index p w
    rw [hsnd]
    exact (late_sendMedia thread o p w).imp_right fun hlate => ⟨index, p, rfl, hlate⟩
  | p :: q :: payloads =>
    exact .inl (isPunctual_sendTogether thread o (p :: q :: payloads) w)

theorem sendIndexed_of_stopped (o : Outbox) {payloads : List (ℕ × Payload)} (hne : payloads ≠ [])
    {w : World τ} (h : w.stopped = true) :
    ∃ e, o.sendIndexed thread payloads w = (.failed e, w) := by
  match payloads with
  | [] => exact absurd rfl hne
  | [(index, p)] =>
    simp only [sendIndexed, sendSingle, Job.mapError, Job.bind]
    cases hp : o.oversized? p with
    | none => exact ⟨_, by rw [sendMedia_of_stopped thread o hp h]⟩
    | some e => exact ⟨_, by rw [sendMedia_of_oversized thread o hp]⟩
  | p :: q :: payloads =>
    have hup := uploadAll_of_stopped thread o.backoff.retries
      (o.uploadsOf (p :: q :: payloads)) h
    obtain ⟨e, he⟩ := sendTogether_of_stopped thread o (p :: q :: payloads) (by rwa [hup])
    rw [hup] at he
    exact ⟨e, he⟩

end MediaRelay.Outbox
