import Mathlib.Data.List.Forall2
import MediaRelay.Proofs.Calls
import MediaRelay.Proofs.List
import MediaRelay.Proofs.Outbox.Token
/-! What an outbox uploads, and how often. Each payload has a budget of tries, which is nothing for
one that is too large. Uploads that run side by side keep to their budgets in whatever order they
take their tries, and the ones that an outbox makes round by round are a case of this. -/

namespace MediaRelay

variable {τ α : Type}

def CallRecord.upload? (r : CallRecord) : Option Payload :=
  match r.call with
  | .upload _ p => some p
  | _ => none

namespace World

variable {w w₁ w' : World τ} {ps qs : List Payload}

def Uploads (w w' : World τ) (ps : List Payload) : Prop :=
  ∃ new, w'.calls = w.calls ++ new ∧ new.filterMap CallRecord.upload? = ps

theorem Uploads.of_eq (h : w'.calls = w.calls) : w.Uploads w' [] :=
  ⟨[], by rw [h, List.append_nil], rfl⟩

theorem Uploads.refl (w : World τ) : w.Uploads w [] := .of_eq rfl

theorem Uploads.trans (h : w.Uploads w₁ ps) (h' : w₁.Uploads w' qs) : w.Uploads w' (ps ++ qs) := by
  obtain ⟨new, hcalls, rfl⟩ := h
  obtain ⟨new', hcalls', rfl⟩ := h'
  exact ⟨new ++ new', by rw [hcalls', hcalls, List.append_assoc], List.filterMap_append⟩

/-- Where every upload is of a kind, so is every payload that was uploaded. -/
theorem Uploads.makesOnly (h : w.Uploads w' ps) :
    w.MakesOnly (fun c => ∀ thread p, c = .upload thread p → p ∈ ps) w' := by
  obtain ⟨new, hcalls, rfl⟩ := h
  refine ⟨new, hcalls, fun r hr thread p hcall => List.mem_filterMap.2 ⟨r, hr, ?_⟩⟩
  rw [CallRecord.upload?, hcall]

end World

/-- Tries that upload one payload each come to as many uploads of it, which are so many at most. -/
theorem Job.uploads_attempts {attempt : Job τ α} {p : Payload}
    (h : ∀ w : World τ, w.Uploads (attempt w).2 [p]) (delay : ℕ → Nanos) (n k : ℕ) (w : World τ) :
    ∃ made ≤ n + 1, w.Uploads (attempts delay attempt n k w).2 (List.replicate made p) := by
  induction n generalizing k w with
  | zero =>
    have hw := h w
    rw [attempts.eq_def]
    rcases hjob : attempt w with ⟨o, w₁⟩
    rw [hjob] at hw
    simp only [hjob, ite_self]
    refine ⟨1, Nat.le_refl _, ?_⟩
    cases o <;> exact hw
  | succ n ih =>
    have hw := h w
    rw [attempts.eq_def]
    rcases hjob : attempt w with ⟨o, w₁⟩
    rw [hjob] at hw
    have hone : ∃ made ≤ n + 1 + 1, w.Uploads w₁ (List.replicate made p) :=
      ⟨1, Nat.le_add_left _ _, hw⟩
    simp only [hjob]
    cases o with
    | failed e =>
      dsimp only
      split_ifs
      · rcases hsleep : w₁.sleep (delay k) with ⟨passed, w₂⟩
        have hslept : w₁.Uploads w₂ [] := .of_eq (World.calls_of_sleep hsleep)
        cases passed with
        | true =>
          obtain ⟨made, hmade, hrest⟩ := ih (k + 1) w₂
          exact ⟨made + 1, Nat.succ_le_succ hmade, (hw.trans hslept).trans hrest⟩
        | false => exact ⟨1, Nat.le_add_left _ _, hw.trans hslept⟩
      · exact hone
    | _ => exact hone

theorem Job.uploads_retry {attempt : Job τ α} {p : Payload}
    (h : ∀ w : World τ, w.Uploads (attempt w).2 [p]) (b : Backoff) (w : World τ) :
    ∃ made ≤ b.retries + 1, w.Uploads (retry b attempt w).2 (List.replicate made p) := by
  cases hw : w.stopped with
  | true =>
    rw [retry_of_stopped b attempt hw]
    exact ⟨0, Nat.zero_le _, .refl w⟩
  | false =>
    rw [retry, snd_watch _ hw]
    exact uploads_attempts h b.delay b.retries 0 w

namespace Outbox

variable {o : Outbox}

open Upload (numbered)

/-- How often a payload may be uploaded in one call. -/
def budget (o : Outbox) (p : Payload) : ℕ := if p.size > o.maxUpload then 0 else max o.attempts 1

theorem budget_of_oversized {p : Payload} (h : o.maxUpload < p.size) : o.budget p = 0 := if_pos h

theorem budget_of_fits {p : Payload} (h : p.size ≤ o.maxUpload) :
    o.budget p = max o.attempts 1 := if_neg (Nat.not_lt.2 h)

structure WithinBudget (o : Outbox) (payloads : List Payload) (w w' : World τ) : Prop where
  size_le : w.MakesOnly (fun c => ∀ thread p, c = .upload thread p → p.size ≤ o.maxUpload) w'
  tries : ∃ ps made, w.Uploads w' ps ∧ List.Forall₂ (fun p n => n ≤ o.budget p) payloads made ∧
    ps.Perm ((payloads.zip made).flatMap fun q => List.replicate q.2 q.1)

theorem WithinBudget.of_tries {payloads ps : List Payload} (made : List ℕ) {w w' : World τ}
    (h : w.Uploads w' ps) (hmade : List.Forall₂ (fun p n => n ≤ o.budget p) payloads made)
    (hperm : ps.Perm ((payloads.zip made).flatMap fun q => List.replicate q.2 q.1)) :
    o.WithinBudget payloads w w' where
  size_le := by
    refine h.makesOnly.mono fun c hc thread p hcall => ?_
    obtain ⟨⟨p', n⟩, hmem, hp⟩ := List.mem_flatMap.1 (hperm.mem_iff.1 (hc thread p hcall))
    obtain ⟨hn, rfl⟩ := List.mem_replicate.1 hp
    have hle : n ≤ o.budget p := (List.forall₂_iff_zip.1 hmade).2 hmem
    by_contra hsize
    rw [budget_of_oversized (by omega)] at hle
    omega
  tries := ⟨ps, made, h, hmade, hperm⟩

/-- Work that makes no calls may come before. -/
theorem WithinBudget.of_earlier {payloads : List Payload} {w w₁ w' : World τ}
    (h : o.WithinBudget payloads w₁ w') (hcalls : w₁.calls = w.calls) :
    o.WithinBudget payloads w w' := by
  obtain ⟨ps, made, hups, hmade, hperm⟩ := h.tries
  exact .of_tries _ ((World.Uploads.of_eq hcalls).trans hups) hmade hperm

/-! ### Tasks -/

structure UploadTask where
  upload : Upload
  made : ℕ := 0

namespace UploadTask

structure Fits (o : Outbox) (t : UploadTask) : Prop where
  made_le : t.made ≤ o.budget t.upload.payload
  made_lt : t.upload.settled = false → t.made < o.budget t.upload.payload
  oversized : o.maxUpload < t.upload.payload.size → t.upload.result =
    some (.error (.oversizedPayload t.upload.payload.size o.maxUpload))
  cause : t.upload.payload.size ≤ o.maxUpload → ∀ e, t.upload.result = some (.error e) →
    e = .cancelled ∨ ∃ c, e = .transport c

theorem Fits.size_le {t : UploadTask} (h : t.Fits o) (hset : t.upload.settled = false) :
    t.upload.payload.size ≤ o.maxUpload := by
  have hlt := h.made_lt hset
  by_contra hsize
  rw [budget_of_oversized (Nat.not_le.1 hsize)] at hlt
  exact absurd hlt (Nat.not_lt_zero _)

/-- One more try keeps to the budget, where another may follow only if one is left. -/
theorem Fits.tried {t : UploadTask} (h : t.Fits o) (hset : t.upload.settled = false) {u : Upload}
    (hpayload : u.payload = t.upload.payload)
    (hleft : u.settled = false → t.made + 1 < max o.attempts 1)
    (hcause : ∀ e, u.result = some (.error e) → e = .cancelled ∨ ∃ c, e = .transport c) :
    Fits o ⟨u, t.made + 1⟩ := by
  have hsize : u.payload.size ≤ o.maxUpload := hpayload ▸ h.size_le hset
  have hbudget : o.budget u.payload = max o.attempts 1 := budget_of_fits hsize
  refine ⟨?_, fun hopen => ?_, fun hbig => absurd hsize (Nat.not_le.2 hbig), fun _ => hcause⟩
  · change t.made + 1 ≤ o.budget u.payload
    rw [hpayload]
    exact h.made_lt hset
  · change t.made + 1 < o.budget u.payload
    rw [hbudget]
    exact hleft hopen

end UploadTask

def tasksOf (o : Outbox) (payloads : List (ℕ × Payload)) : List UploadTask :=
  (o.uploadsOf payloads).map fun u => { upload := u }

theorem UploadTask.fits_tasksOf {payloads : List (ℕ × Payload)} {t : UploadTask}
    (h : t ∈ o.tasksOf payloads) : t.Fits o := by
  obtain ⟨u, hu, rfl⟩ := List.mem_map.1 h
  obtain ⟨⟨index, p⟩, -, rfl⟩ := List.mem_map.1 hu
  by_cases hsize : p.size > o.maxUpload
  · have hbig : o.oversized? p = some (.oversizedPayload p.size o.maxUpload) := if_pos hsize
    exact
      { made_le := Nat.zero_le _
        made_lt := by simp [Upload.settled, hbig]
        oversized := fun _ => by simp [hbig]
        cause := fun hle => absurd hsize (by simpa using hle) }
  · have hfits : o.oversized? p = none := if_neg hsize
    exact
      { made_le := Nat.zero_le _
        made_lt := fun _ => by
          rw [budget_of_fits (by simpa using hsize)]
          exact Nat.lt_of_lt_of_le Nat.zero_lt_one (Nat.le_max_right _ _)
        oversized := fun hlt => absurd hlt hsize
        cause := fun _ e he => by simp [hfits] at he }

structure IsUnderWay (o : Outbox) (payloads : List (ℕ × Payload)) (w : World τ)
    (ts : List UploadTask) (w' : World τ) : Prop where
  numbered : ts.map (·.upload.numbered) = payloads
  fits : ∀ t ∈ ts, t.Fits o
  uploads : ∃ ps, w.Uploads w' ps ∧
    ps.Perm (ts.flatMap fun t => List.replicate t.made t.upload.payload)

theorem IsUnderWay.withinBudget {payloads : List (ℕ × Payload)} {w w' : World τ}
    {ts : List UploadTask} (h : IsUnderWay o payloads w ts w') :
    o.WithinBudget (payloads.map (·.2)) w w' := by
  obtain ⟨ps, hups, hperm⟩ := h.uploads
  have hpayloads : payloads.map (·.2) = ts.map (·.upload.payload) := by
    rw [← h.numbered, List.map_map]
    rfl
  rw [hpayloads]
  refine .of_tries (ts.map (·.made)) hups ?_ ?_
  · rw [List.forall₂_map_left_iff, List.forall₂_map_right_iff, List.forall₂_same]
    exact fun t ht => (h.fits t ht).made_le
  · rwa [List.zip_map', List.flatMap_map]

/-- Work that uploads nothing may follow. -/
theorem IsUnderWay.append {payloads : List (ℕ × Payload)} {w w₁ w' : World τ}
    {ts : List UploadTask} (h : IsUnderWay o payloads w ts w₁) (h' : w₁.Uploads w' []) :
    IsUnderWay o payloads w ts w' where
  numbered := h.numbered
  fits := h.fits
  uploads := by
    obtain ⟨ps, hups, hperm⟩ := h.uploads
    exact ⟨ps ++ [], hups.trans h', by rwa [List.append_nil]⟩

/-! ### Calls -/

variable [Transport τ] {thread : Thread}

theorem uploads_uploadOnce (thread : Thread) (p : Payload) (w : World τ) :
    w.Uploads (uploadOnce thread p w).2 [p] := by
  obtain ⟨r, hr, hcalls⟩ := Job.exists_record_call (.upload thread p) (Transport.upload thread p)
    some w
  refine ⟨[r], hcalls, ?_⟩
  rw [List.filterMap_cons, CallRecord.upload?, hr]
  rfl

theorem uploads_sendOnce (thread : Thread) (attachments : List Attachment) (w : World τ) :
    w.Uploads (sendOnce thread attachments w).2 [] := by
  obtain ⟨r, hr, hcalls⟩ := Job.exists_record_call (.send thread attachments)
    (Transport.sendAttachments thread attachments) (fun () => none) w
  refine ⟨[r], hcalls, ?_⟩
  rw [List.filterMap_cons, CallRecord.upload?, hr]
  rfl

/-- A try of a single payload uploads it once, and may send it then. -/
theorem uploads_tryMedia (thread : Thread) (p : Payload) (w : World τ) :
    w.Uploads (((uploadOnce thread p).bind fun a => sendOnce thread [a]) w).2 [p] := by
  have hup := uploads_uploadOnce thread p w
  rcases hjob : uploadOnce thread p w with ⟨o, w₁⟩
  rw [hjob] at hup
  simp only [Job.bind, hjob]
  cases o with
  | done a => exact hup.trans (uploads_sendOnce thread [a] w₁)
  | _ => exact hup

theorem uploads_sendUploaded (o : Outbox) (us : List Upload) (w : World τ) :
    w.Uploads (o.sendUploaded thread us w).2 [] := by
  by_cases h : us.filterMap Upload.attachment? = []
  · rw [sendUploaded_of_nil h]
    exact .refl w
  · rw [sendUploaded_of_ne_nil h]
    have hsend : (sendOnce thread (us.filterMap Upload.attachment?)).Preserves
        fun w' : World τ => w.Uploads w' [] :=
      fun w₁ hw₁ => hw₁.trans (uploads_sendOnce thread _ w₁)
    exact ((hsend.retry (fun _ _ h => h) _).bind fun _ => Job.preserves_pure _) w (.refl w)

/-- A single payload is uploaded once for each try, and not at all when it is too large. -/
theorem withinBudget_sendMedia (o : Outbox) (thread : Thread) (p : Payload) (w : World τ) :
    o.WithinBudget [p] w (o.sendMedia thread p w).2 := by
  obtain ⟨made, hmade, hups⟩ : ∃ made ≤ o.budget p,
      w.Uploads (o.sendMedia thread p w).2 (List.replicate made p) := by
    by_cases hsize : p.size > o.maxUpload
    · rw [sendMedia_of_oversized thread o (if_pos hsize) w]
      exact ⟨0, Nat.zero_le _, .refl w⟩
    · obtain ⟨made, hmade, hups⟩ := Job.uploads_retry (uploads_tryMedia thread p) o.backoff w
      have hretries : o.backoff.retries + 1 = max o.attempts 1 :=
        Nat.sub_add_cancel (Nat.le_max_right _ _)
      refine ⟨made, by rw [budget_of_fits (by omega)]; omega, ?_⟩
      rwa [sendMedia, oversized?, if_neg hsize]
  exact .of_tries [made] hups (.cons hmade .nil) (by simp)

/-! ### Uploads side by side -/

namespace UploadTask

def next (o : Outbox) (thread : Thread) (t : UploadTask) (w : World τ) : UploadTask × World τ :=
  let r := tryUpload thread (t.made + 1 < max o.attempts 1) t.upload w
  ({ upload := r.1, made := if t.upload.settled || w.stopped then t.made else t.made + 1 }, r.2)

theorem next_of_settled {t : UploadTask} (h : t.upload.settled = true) (w : World τ) :
    t.next o thread w = (t, w) := by
  simp only [next, tryUpload, h, if_true, Bool.true_or]

theorem next_of_stopped {t : UploadTask} (h : t.upload.settled = false) {w : World τ}
    (hw : w.stopped = true) :
    t.next o thread w = ({ t with upload := t.upload.settle (.error .cancelled) }, w) := by
  simp only [next, tryUpload, h, hw, Bool.false_eq_true, if_false, if_true, Bool.or_true]

/-- A try uploads the payload of its task, if it uploads anything, and keeps to its budget. -/
theorem Fits.next {t : UploadTask} (h : t.Fits o) (thread : Thread) (w : World τ) :
    (t.next o thread w).1.Fits o ∧ (t.next o thread w).1.upload.numbered = t.upload.numbered ∧
      ∃ n, (t.next o thread w).1.made = t.made + n ∧
        w.Uploads (t.next o thread w).2 (List.replicate n t.upload.payload) := by
  cases hset : t.upload.settled with
  | true =>
    rw [next_of_settled hset]
    exact ⟨h, rfl, 0, rfl, .refl w⟩
  | false =>
    cases hw : w.stopped with
    | true =>
      rw [next_of_stopped hset hw]
      refine ⟨⟨h.made_le, fun hopen => ?_, fun hbig => ?_, ?_⟩, rfl, 0, rfl, .refl w⟩
      · simp [Upload.settled, Upload.settle] at hopen
      · exact absurd (h.size_le hset) (Nat.not_le.2 hbig)
      · rintro - e ⟨⟩
        exact .inl rfl
    | false =>
      have hups := uploads_uploadOnce thread t.upload.payload w
      rcases hjob : uploadOnce thread t.upload.payload w with ⟨out, w₁⟩
      rw [hjob] at hups
      have hsettled (r : Except MediaError Attachment)
          (hr : ∀ e, r = .error e → e = .cancelled ∨ ∃ c, e = .transport c) :
          Fits o ⟨t.upload.settle r, t.made + 1⟩ := by
        refine h.tried hset rfl (fun hopen => ?_) fun e he => hr e (Option.some.inj he)
        simp [Upload.settled, Upload.settle] at hopen
      -- an upload that stays as it was has no result yet
      have hopen (e : MediaError) : t.upload.result ≠ some (.error e) := by
        intro he
        simp [Upload.settled, he] at hset
      simp only [UploadTask.next, tryUpload, hset, hw, hjob, Bool.or_self, Bool.false_eq_true,
        if_false]
      cases out with
      | done a => exact ⟨hsettled _ (by simp), rfl, 1, rfl, hups⟩
      | failed e =>
        dsimp only
        split_ifs with hmore
        · simp only [Bool.and_eq_true, decide_eq_true_eq] at hmore
          exact ⟨h.tried hset rfl (fun _ => hmore.1) fun e he => absurd he (hopen e), rfl, 1, rfl,
            hups⟩
        · refine ⟨hsettled _ ?_, rfl, 1, rfl, hups⟩
          rintro e ⟨⟩
          exact .inr (Job.cause_call hjob)
      | waiting =>
        refine ⟨hsettled _ ?_, rfl, 1, rfl, hups⟩
        rintro e ⟨⟩
        exact .inl rfl
      | crashed =>
        refine ⟨h.tried hset rfl (fun hopen => ?_) fun e he => absurd he (hopen e), rfl, 1, rfl,
          hups⟩
        simp [Upload.settled] at hopen

end UploadTask

/-- Tasks that run side by side, in any order: each takes its next try, and between two tries time
passes, or somebody fires the token. -/
inductive Race (o : Outbox) (thread : Thread) (payloads : List (ℕ × Payload)) (w : World τ) :
    List UploadTask → World τ → Prop
  | start : Race o thread payloads w (o.tasksOf payloads) w
  | passes {ts : List UploadTask} {w₁ : World τ} (h : Race o thread payloads w ts w₁)
      (time : Nanos) : Race o thread payloads w ts { w₁ with now := w₁.now + time }
  | fires {ts : List UploadTask} {w₁ : World τ} (h : Race o thread payloads w ts w₁) :
    Race o thread payloads w ts w₁.fire
  | tries {before after : List UploadTask} {t : UploadTask} {w₁ : World τ}
      (h : Race o thread payloads w (before ++ t :: after) w₁) :
    Race o thread payloads w (before ++ (t.next o thread w₁).1 :: after) (t.next o thread w₁).2

theorem Race.isUnderWay {payloads : List (ℕ × Payload)} {w w' : World τ} {ts : List UploadTask}
    (h : Race o thread payloads w ts w') : IsUnderWay o payloads w ts w' := by
  induction h with
  | start =>
    have hnone : ((o.tasksOf payloads).flatMap fun t => List.replicate t.made t.upload.payload) =
        [] := by
      simp [tasksOf, List.flatMap_map]
    refine ⟨?_, fun t ht => UploadTask.fits_tasksOf ht, [], .refl w, by rw [hnone]⟩
    rw [tasksOf, List.map_map]
    exact o.map_numbered_uploadsOf payloads
  | passes _ _ ih => exact ⟨ih.numbered, ih.fits, ih.uploads⟩
  | fires _ ih => exact ⟨ih.numbered, ih.fits, ih.uploads⟩
  | @tries before after t w₁ _ ih =>
    obtain ⟨hbefore, ht, hafter⟩ : (∀ t ∈ before, t.Fits o) ∧ t.Fits o ∧ ∀ t ∈ after, t.Fits o := by
      simpa [or_imp, forall_and] using ih.fits
    obtain ⟨hfits, hnum, n, hmade, hup⟩ := ht.next thread w₁
    obtain ⟨ps, hups, hperm⟩ := ih.uploads
    have hpayload : (t.next o thread w₁).1.upload.payload = t.upload.payload :=
      (Prod.mk.inj hnum).2
    refine ⟨?_, ?_, ps ++ List.replicate n t.upload.payload, hups.trans hup, ?_⟩
    · rw [← ih.numbered]
      simp [hnum]
    · simpa [or_imp, forall_and] using ⟨hbefore, hfits, hafter⟩
    · rw [List.flatMap_append, List.flatMap_cons] at hperm ⊢
      rw [hmade, hpayload, List.replicate_add]
      refine (hperm.append_right _).trans ?_
      rw [List.append_assoc, List.append_assoc, List.append_assoc]
      exact (List.perm_append_comm.append_left _).append_left _

/-! ### Round by round -/

namespace UploadTask

/-- In a round in which it has so many tries left, a task has its next try. -/
theorem next_eq_tryUpload {t : UploadTask} {more : Bool}
    (h : t.upload.settled = false → decide (t.made + 1 < max o.attempts 1) = more)
    (thread : Thread) (w : World τ) :
    (t.next o thread w).1.upload = (tryUpload thread more t.upload w).1 ∧
      (t.next o thread w).2 = (tryUpload thread more t.upload w).2 := by
  cases hset : t.upload.settled with
  | true =>
    rw [next_of_settled hset]
    simp only [tryUpload, hset, if_true, and_self]
  | false =>
    rw [← h hset]
    exact ⟨rfl, rfl⟩

/-- A task that is open after its next try was open before, and was tried once more. -/
theorem open_of_next {t : UploadTask} {w : World τ}
    (h : (t.next o thread w).1.upload.settled = false) :
    t.upload.settled = false ∧ (t.next o thread w).1.made = t.made + 1 := by
  cases hset : t.upload.settled with
  | true =>
    rw [next_of_settled hset, hset] at h
    cases h
  | false =>
    cases hw : w.stopped with
    | true =>
      rw [next_of_stopped hset hw] at h
      simp [Upload.settled, Upload.settle] at h
    | false =>
      refine ⟨rfl, ?_⟩
      simp only [next, hset, hw, Bool.or_self, Bool.false_eq_true, if_false]

end UploadTask

theorem Race.tryUploads {payloads : List (ℕ × Payload)} {w₀ w : World τ}
    (before : List UploadTask) {ts : List UploadTask}
    (h : Race o thread payloads w₀ (before ++ ts) w) (more : Bool)
    (hmore : ∀ t ∈ ts, t.upload.settled = false →
      decide (t.made + 1 < max o.attempts 1) = more) :
    ∃ ts', ts'.map (·.upload) = (tryUploads thread more (ts.map (·.upload)) w).1 ∧
      Race o thread payloads w₀ (before ++ ts')
        (tryUploads thread more (ts.map (·.upload)) w).2 ∧
      ∀ t' ∈ ts', t'.upload.settled = false →
        ∃ t ∈ ts, t.upload.settled = false ∧ t'.made = t.made + 1 := by
  -- the tasks that had their turn move over to `before`, one by one
  induction ts generalizing before w with
  | nil => exact ⟨[], rfl, h, by simp⟩
  | cons t ts ih =>
    obtain ⟨ht, hts⟩ := List.forall_mem_cons.1 hmore
    obtain ⟨hup, hworld⟩ := t.next_eq_tryUpload ht thread w
    have hstep : Race o thread payloads w₀ ((before ++ [(t.next o thread w).1]) ++ ts)
        (t.next o thread w).2 := by
      rw [List.append_assoc]
      exact h.tries
    obtain ⟨ts', hups, hrace, hopen⟩ := ih _ hstep hts
    rw [hworld] at hups hrace
    refine ⟨(t.next o thread w).1 :: ts', ?_, ?_, ?_⟩
    · rw [List.map_cons, hups, hup]
      rfl
    · rw [List.append_assoc] at hrace
      exact hrace
    · rw [List.forall_mem_cons]
      constructor
      · intro hset
        exact ⟨t, List.mem_cons_self, UploadTask.open_of_next hset⟩
      · intro t' ht' hset
        obtain ⟨t₁, ht₁, hopen₁⟩ := hopen t' ht' hset
        exact ⟨t₁, List.mem_cons_of_mem _ ht₁, hopen₁⟩

theorem Race.uploadAll {payloads : List (ℕ × Payload)} {w₀ w : World τ} {ts : List UploadTask}
    {retries : ℕ} (h : Race o thread payloads w₀ ts w)
    (hleft : ∀ t ∈ ts, t.upload.settled = false →
      t.made + retries + 1 = max o.attempts 1) :
    ∃ ts', ts'.map (·.upload) = (Outbox.uploadAll thread retries (ts.map (·.upload)) w).1 ∧
      Race o thread payloads w₀ ts' (Outbox.uploadAll thread retries (ts.map (·.upload)) w).2 := by
  induction retries generalizing ts w with
  | zero =>
    rw [Outbox.uploadAll]
    split_ifs
    · exact ⟨ts, rfl, h⟩
    · obtain ⟨ts', hups, hrace, -⟩ := Race.tryUploads [] h false
        fun t ht hset => by
          have := hleft t ht hset
          simp only [decide_eq_false_iff_not]
          omega
      exact ⟨ts', hups, hrace⟩
  | succ retries ih =>
    rw [Outbox.uploadAll]
    split_ifs
    · exact ⟨ts, rfl, h⟩
    · obtain ⟨ts₁, hups, hrace, hopen⟩ := Race.tryUploads [] h true
        fun t ht hset => by
          have := hleft t ht hset
          simp only [decide_eq_true_eq]
          omega
      dsimp only
      rw [← hups]
      refine ih hrace fun t' ht' hset => ?_
      obtain ⟨t, ht, hset₁, hmade⟩ := hopen t' ht' hset
      have := hleft t ht hset₁
      omega

/-- The uploads that an outbox makes side by side are one race of many. -/
theorem race_uploadAll (o : Outbox) (thread : Thread) (payloads : List (ℕ × Payload))
    (w : World τ) :
    ∃ ts, ts.map (·.upload) =
        (uploadAll thread o.backoff.retries (o.uploadsOf payloads) w).1 ∧
      Race o thread payloads w ts
        (uploadAll thread o.backoff.retries (o.uploadsOf payloads) w).2 := by
  have hups : (o.tasksOf payloads).map (·.upload) = o.uploadsOf payloads := by
    rw [tasksOf, List.map_map]
    exact List.map_id _
  rw [← hups]
  refine Race.uploadAll .start fun t ht _ => ?_
  obtain ⟨u, -, rfl⟩ := List.mem_map.1 ht
  change 0 + (max o.attempts 1 - 1) + 1 = max o.attempts 1
  omega

/-- The order in which uploads report back is of no account. -/
theorem sendTogether_eq (o : Outbox) (thread : Thread) (payloads : List (ℕ × Payload))
    (w : World τ) :
    o.sendTogether thread payloads w =
      o.sendUploaded thread (uploadAll thread o.backoff.retries (o.uploadsOf payloads) w).1
        (uploadAll thread o.backoff.retries (o.uploadsOf payloads) w).2 := by
  rw [sendTogether]
  dsimp only
  rw [Arrival.inPlace_collect]

theorem withinBudget_sendIndexed (o : Outbox) (thread : Thread) (payloads : List (ℕ × Payload))
    (w : World τ) :
    o.WithinBudget (payloads.map (·.2)) w (o.sendIndexed thread payloads w).2 := by
  match payloads with
  | [] => exact .of_tries [] (.refl w) .nil (.refl _)
  | [(index, p)] =>
    have hsnd : (o.sendIndexed thread [(index, p)] w).2 = (o.sendMedia thread p w).2 :=
      snd_sendSingle thread o index p w
    rw [hsnd]
    exact withinBudget_sendMedia o thread p w
  | p :: q :: payloads =>
    obtain ⟨ts, -, hrace⟩ := race_uploadAll o thread (p :: q :: payloads) w
    have hsend : o.sendIndexed thread (p :: q :: payloads) w = _ :=
      o.sendTogether_eq thread (p :: q :: payloads) w
    rw [hsend]
    exact (hrace.isUnderWay.append (uploads_sendUploaded o _ _)).withinBudget

theorem withinBudget_sendMultiMedia (o : Outbox) (thread : Thread) (payloads : List Payload)
    (w : World τ) : o.WithinBudget payloads w (o.sendMultiMedia thread payloads w).2 := by
  have h := withinBudget_sendIndexed o thread (payloads.zipIdx.map fun q => (q.2 + 1, q.1)) w
  rw [List.map_map] at h
  have hpayloads : payloads.zipIdx.map ((·.2) ∘ fun q => (q.2 + 1, q.1)) = payloads :=
    List.zipIdx_map_fst 0 payloads
  rwa [hpayloads] at h

end Outbox
end MediaRelay
