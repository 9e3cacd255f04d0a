import Mathlib.Data.List.Perm.Subperm
import MediaRelay.Outbox
import MediaRelay.Proofs.Retry
/-! Uploads of payloads, each told with the calls that were made for it. One that is too large makes
none; any other is tried until it is accepted or its task dies, and no more often than there are
tries. Side by side they share the log of calls, which is that of each put together. -/

namespace MediaRelay

variable {τ : Type}

namespace CallRecord

def uploaded? (r : CallRecord) : Option (Payload × Attachment) :=
  match r.call, r.attachment with
  | .upload _ p, some a => some (p, a)
  | _, _ => none

def sent? (v : Verdict) (r : CallRecord) : Option (Thread × List Attachment) :=
  match r.call with
  | .send thread attachments => if r.verdict = v then some (thread, attachments) else none
  | _ => none

def isUpload (r : CallRecord) : Bool :=
  match r.call with
  | .upload _ _ => true
  | _ => false

theorem filterMap_sent?_of_isUpload {calls : List CallRecord}
    (h : ∀ r ∈ calls, r.isUpload = true) (v : Verdict) : calls.filterMap (sent? v) = [] := by
  refine List.filterMap_eq_nil_iff.2 fun r hr => ?_
  have hupload := h r hr
  unfold isUpload at hupload
  unfold sent?
  split at hupload
  · next hcall => rw [hcall]
  · cases hupload

theorem filterMap_uploaded?_filter (calls : List CallRecord) :
    (calls.filter (·.isUpload)).filterMap uploaded? = calls.filterMap uploaded? := by
  rw [List.filterMap_filter]
  refine List.filterMap_congr fun r _ => ?_
  rcases r with ⟨call, verdict, fired, attachment⟩
  cases call <;> rfl

end CallRecord

namespace Outbox

open CallRecord (uploaded? sent? isUpload)

inductive Fails (thread : Thread) (new : List CallRecord) (alone : Prop) (p : Payload) :
    CallRecord → Prop
  | refused : Fails thread new alone p ⟨.upload thread p, .refused, false, none⟩
  | notSent {a : Attachment} (h : alone)
      (sent : ⟨.send thread [a], .refused, false, none⟩ ∈ new) :
      Fails thread new alone p ⟨.upload thread p, .accepted, false, some a⟩

theorem Fails.mono {thread : Thread} {new new' : List CallRecord} {alone alone' : Prop}
    {p : Payload} {r : CallRecord} (h : Fails thread new alone p r) (hnew : new ⊆ new')
    (halone : alone → alone') : Fails thread new' alone' p r := by
  cases h with
  | refused => exact .refused
  | notSent h sent => exact .notSent (halone h) (hnew sent)

/-- How the upload of a payload ends, with the calls that are made for it. One that is too large is
not tried. Any other is tried until it is accepted or its task dies, and in vain as often as there
are tries. -/
inductive UploadEnds (o : Outbox) (thread : Thread) (fails : Payload → CallRecord → Prop)
    (p : Payload) : List CallRecord → Option (Except MediaError Attachment) → Prop
  | tooLarge (large : o.maxUpload < p.size) :
      UploadEnds o thread fails p [] (some (.error (.oversizedPayload p.size o.maxUpload)))
  | accepted {tries : List CallRecord} {a : Attachment} (fits : p.size ≤ o.maxUpload)
      (failed : ∀ r ∈ tries, fails p r) (left : tries.length < max o.attempts 1) :
      UploadEnds o thread fails p (tries ++ [⟨.upload thread p, .accepted, false, some a⟩])
        (some (.ok a))
  | refused {tries : List CallRecord} {e : TransportError} (fits : p.size ≤ o.maxUpload)
      (failed : ∀ r ∈ tries, fails p r) (all : tries.length = max o.attempts 1) :
      UploadEnds o thread fails p tries (some (.error (.transport e)))
  | crashed {tries : List CallRecord} (fits : p.size ≤ o.maxUpload)
      (failed : ∀ r ∈ tries, fails p r) (left : tries.length < max o.attempts 1) :
      UploadEnds o thread fails p (tries ++ [⟨.upload thread p, .crashed, false, none⟩]) none

theorem UploadEnds.mono {o : Outbox} {thread : Thread} {fails fails' : Payload → CallRecord → Prop}
    {p : Payload} {calls : List CallRecord} {result : Option (Except MediaError Attachment)}
    (h : o.UploadEnds thread fails p calls result) (hfails : ∀ r, fails p r → fails' p r) :
    o.UploadEnds thread fails' p calls result := by
  cases h with
  | tooLarge large => exact .tooLarge large
  | accepted fits failed left => exact .accepted fits (fun r hr => hfails r (failed r hr)) left
  | refused fits failed all => exact .refused fits (fun r hr => hfails r (failed r hr)) all
  | crashed fits failed left => exact .crashed fits (fun r hr => hfails r (failed r hr)) left

namespace Upload

def numbered (u : Upload) : ℕ × Payload := (u.index, u.payload)

def handed? (u : Upload) : Option (Payload × Attachment) := u.attachment?.map (u.payload, ·)

theorem filterMap_handed?_cons (u : Upload) (us : List Upload) :
    (u :: us).filterMap handed? = u.handed?.toList ++ us.filterMap handed? := by
  rw [List.filterMap_cons]
  cases u.handed? <;> rfl

@[simp]
theorem settled_settle (u : Upload) (outcome : Except MediaError Attachment) :
    (u.settle outcome).settled = true := by
  simp [settled, settle]

def Ends (o : Outbox) (thread : Thread) (fails : Payload → CallRecord → Prop) (u : Upload)
    (calls : List CallRecord) : Prop :=
  o.UploadEnds thread fails u.payload calls u.result

section

variable {o : Outbox} {thread : Thread} {fails : Payload → CallRecord → Prop} {u : Upload}
  {us : List Upload} {calls : List CallRecord} {logs : List (List CallRecord)}

/-- What an upload has come to was handed out in its last call. -/
theorem Ends.exists_append (h : u.Ends o thread fails calls) :
    ∃ tries : List CallRecord, (∀ r ∈ tries, fails u.payload r) ∧
      calls.filterMap uploaded? = tries.filterMap uploaded? ++ u.handed?.toList := by
  rcases u with ⟨index, p, result, lost⟩
  simp only [Ends] at h
  cases h with
  | tooLarge large => exact ⟨[], by simp, rfl⟩
  | accepted fits failed left => exact ⟨_, failed, List.filterMap_append⟩
  | refused fits failed all => exact ⟨_, failed, (List.append_nil _).symm⟩
  | crashed fits failed left => exact ⟨_, failed, List.filterMap_append⟩

theorem handed_sublist (h : List.Forall₂ (Ends o thread fails) us logs) :
    (us.filterMap handed?).Sublist (logs.flatten.filterMap uploaded?) := by
  induction h with
  | nil => exact .slnil
  | @cons u calls us logs hu _ ih =>
    obtain ⟨tries, -, hcalls⟩ := hu.exists_append
    rw [List.flatten_cons, List.filterMap_append, hcalls, List.append_assoc, filterMap_handed?_cons]
    exact (ih.append_left _).trans (List.sublist_append_right _ _)

/-- Where a try fails only by its upload, all that was handed out is what the uploads came to. -/
theorem handed_eq (h : List.Forall₂ (Ends o thread fails) us logs)
    (hfails : ∀ p r, fails p r → uploaded? r = none) :
    us.filterMap handed? = logs.flatten.filterMap uploaded? := by
  induction h with
  | nil => rfl
  | @cons u calls us logs hu _ ih =>
    obtain ⟨tries, htries, hcalls⟩ := hu.exists_append
    have hnone : tries.filterMap uploaded? = [] :=
      List.filterMap_eq_nil_iff.2 fun r hr => hfails _ r (htries r hr)
    rw [List.flatten_cons, List.filterMap_append, hcalls, hnone, List.nil_append, ← ih,
      filterMap_handed?_cons]

theorem handed_eq_nil (h : us.filterMap attachment? = []) : us.filterMap handed? = [] := by
  refine List.filterMap_eq_nil_iff.2 fun u hu => ?_
  rw [handed?, List.filterMap_eq_nil_iff.1 h u hu]
  rfl

end

inductive Stands (o : Outbox) (thread : Thread) (t : ℕ) (u : Upload) : List CallRecord → Prop
  | waiting (settled : u.settled = false) (fits : u.payload.size ≤ o.maxUpload) :
      Stands o thread t u (List.replicate t ⟨.upload thread u.payload, .refused, false, none⟩)
  | ended {calls : List CallRecord} (settled : u.settled = true)
      (ends : u.Ends o thread (Fails thread [] False) calls) : Stands o thread t u calls

structure Advance (us us' : List Upload) (logs logs' : List (List CallRecord)) (w w' : World τ)
    (new : List CallRecord) : Prop where
  calls : w'.calls = w.calls ++ new
  numbered : us'.map numbered = us.map numbered
  logs : logs'.flatten.Perm (logs.flatten ++ new)
  uploads : ∀ r ∈ new, r.isUpload = true

theorem Advance.refl (us : List Upload) (logs : List (List CallRecord)) (w : World τ) :
    Advance us us logs logs w w [] :=
  ⟨by simp, rfl, by simp, by simp⟩

theorem Advance.trans {us us' us'' : List Upload} {logs logs' logs'' : List (List CallRecord)}
    {w w' w'' : World τ} {new new' : List CallRecord} (h : Advance us us' logs logs' w w' new)
    (h' : Advance us' us'' logs' logs'' w' w'' new') :
    Advance us us'' logs logs'' w w'' (new ++ new') where
  calls := by rw [h'.calls, h.calls, List.append_assoc]
  numbered := h'.numbered.trans h.numbered
  logs := by
    rw [← List.append_assoc]
    exact h'.logs.trans (h.logs.append_right _)
  uploads := List.forall_mem_append.2 ⟨h.uploads, h'.uploads⟩

theorem Advance.cons {u u' : Upload} {us us' : List Upload} {calls calls' : List CallRecord}
    {logs logs' : List (List CallRecord)} {w w' w'' : World τ} {new new' : List CallRecord}
    (h : Advance [u] [u'] [calls] [calls'] w w' new) (h' : Advance us us' logs logs' w' w'' new') :
    Advance (u :: us) (u' :: us') (calls :: logs) (calls' :: logs') w w'' (new ++ new') where
  calls := by rw [h'.calls, h.calls, List.append_assoc]
  numbered := by
    have hu : u'.numbered = u.numbered := by simpa using h.numbered
    rw [List.map_cons, List.map_cons, hu, h'.numbered]
  logs := by
    have hcalls : calls'.Perm (calls ++ new) := by simpa using h.logs
    rw [List.flatten_cons, List.flatten_cons, List.append_assoc]
    refine (hcalls.append h'.logs).trans ?_
    rw [List.append_assoc]
    refine List.Perm.append_left _ ?_
    rw [← List.append_assoc, ← List.append_assoc]
    exact List.perm_append_comm.append_right _
  uploads := List.forall_mem_append.2 ⟨h.uploads, h'.uploads⟩

/-- A single upload goes on by a call of its own. -/
theorem Advance.of_call {u u' : Upload} {w w' : World τ} {thread : Thread} {p : Payload}
    {v : Verdict} {a : Option Attachment}
    (hcalls : w'.calls = w.calls ++ [⟨.upload thread p, v, false, a⟩])
    (hnumbered : u'.numbered = u.numbered) (calls : List CallRecord) :
    Advance [u] [u'] [calls] [calls ++ [⟨.upload thread p, v, false, a⟩]] w w'
      [⟨.upload thread p, v, false, a⟩] where
  calls := hcalls
  numbered := congrArg ([·]) hnumbered
  logs := by simp
  uploads r hr := by
    rw [List.mem_singleton.1 hr]
    rfl

theorem result_eq_none {u : Upload} (h : u.settled = false) : u.result = none := by
  simp only [settled, Bool.or_eq_false_iff] at h
  simpa using h.2

end Upload

variable [Transport τ]

section

variable {P : World τ → Prop} {thread : Thread}

theorem preserves_tryUpload (hP : ∀ p, (uploadOnce (τ := τ) thread p).Preserves P) (more : Bool)
    (u : Upload) {w : World τ} (h : P w) : P (tryUpload thread more u w).2 := by
  have hup := hP u.payload w h
  rw [tryUpload]
  split_ifs
  · exact h
  · exact h
  · rcases hjob : uploadOnce thread u.payload w with ⟨o, w₁⟩
    rw [hjob] at hup
    cases o <;> exact hup

theorem preserves_tryUploads (hP : ∀ p, (uploadOnce (τ := τ) thread p).Preserves P) (more : Bool)
    (us : List Upload) {w : World τ} (h : P w) : P (tryUploads thread more us w).2 := by
  induction us generalizing w with
  | nil => exact h
  | cons u us ih => exact ih (preserves_tryUpload hP more u h)

theorem preserves_uploadAll (hP : ∀ p, (uploadOnce (τ := τ) thread p).Preserves P) (retries : ℕ)
    (us : List Upload) {w : World τ} (h : P w) : P (uploadAll thread retries us w).2 := by
  induction retries generalizing us w with
  | zero =>
    rw [uploadAll]
    split_ifs
    · exact h
    · exact preserves_tryUploads hP false us h
  | succ retries ih =>
    rw [uploadAll]
    split_ifs
    · exact h
    · exact ih _ (preserves_tryUploads hP true us h)

end

theorem preserves_stopped (thread : Thread) (p : Payload) :
    (uploadOnce (τ := τ) thread p).Preserves (·.stopped = true) := by
  intro w hw
  rcases hup : uploadOnce thread p w with ⟨o, w'⟩
  by_contra hs
  have := Job.stopped_of_call hup (by simpa using hs)
  exact absurd (hw.symm.trans this) (by decide)

theorem stopped_of_tryUploads {thread : Thread} {more : Bool} {us us' : List Upload}
    {w w' : World τ} (h : tryUploads thread more us w = (us', w')) (hs : w'.stopped = false) :
    w.stopped = false := by
  by_contra hw
  have hkept := preserves_tryUploads (preserves_stopped thread) more us (by simpa using hw)
  rw [h, hs] at hkept
  cases hkept

theorem stopped_of_uploadAll {thread : Thread} {retries : ℕ} {us us' : List Upload}
    {w w' : World τ} (h : uploadAll thread retries us w = (us', w')) (hs : w'.stopped = false) :
    w.stopped = false := by
  by_contra hw
  have hkept := preserves_uploadAll (preserves_stopped thread) retries us (by simpa using hw)
  rw [h, hs] at hkept
  cases hkept

open Upload (Advance Ends Stands numbered handed?)

section

variable {o : Outbox} {thread : Thread} {more : Bool} {t : ℕ} {w w' : World τ}

/-- The next try of an upload makes a call, by which it ends, or is to be tried again. -/
theorem tryUpload_cases {u u' : Upload} (hu : u.settled = false)
    (h : tryUpload thread more u w = (u', w')) (hs : w'.stopped = false) :
    (∃ a, w'.calls = w.calls ++ [⟨.upload thread u.payload, .accepted, false, some a⟩] ∧
        u' = u.settle (.ok a)) ∨
      (∃ e, w'.calls = w.calls ++ [⟨.upload thread u.payload, .refused, false, none⟩] ∧
        u' = if more then u else u.settle (.error (.transport e))) ∨
      w'.calls = w.calls ++ [⟨.upload thread u.payload, .crashed, false, none⟩] ∧
        u' = { u with lost := true } := by
  rw [tryUpload, if_neg (by simp [hu])] at h
  split_ifs at h with hstop
  · rw [← (Prod.mk.inj h).2, hstop] at hs
    exact absurd hs (by decide)
  rcases hup : uploadOnce thread u.payload w with ⟨outcome, w₁⟩
  simp only [hup] at h
  obtain rfl : w₁ = w' := by
    cases outcome <;> exact (Prod.mk.inj h).2
  rcases Job.call_cases hup hs with ⟨a, -, rfl, rfl⟩ | ⟨e, -, rfl, rfl⟩ | ⟨-, rfl, rfl⟩
  · obtain ⟨rfl, -⟩ := Prod.mk.inj h
    exact .inl ⟨a, World.calls_answered _ _ _, rfl⟩
  · obtain ⟨rfl, -⟩ := Prod.mk.inj h
    refine .inr (.inl ⟨e, World.calls_answered _ _ _, ?_⟩)
    -- whatever the transport refuses may be tried again
    have hretry : (MediaError.transport e).retryable = true := rfl
    rw [hretry, Bool.and_true]
  · obtain ⟨rfl, -⟩ := Prod.mk.inj h
    exact .inr (.inr ⟨World.calls_answered _ _ _, rfl⟩)

theorem tryUpload_stands {u u' : Upload} {calls : List CallRecord} (hu : Stands o thread t u calls)
    (ht : t < max o.attempts 1) (hlast : more = false → t + 1 = max o.attempts 1)
    (h : tryUpload thread more u w = (u', w')) (hs : w'.stopped = false) :
    ∃ new calls', Advance [u] [u'] [calls] [calls'] w w' new ∧
      Stands o thread (t + 1) u' calls' ∧ (more = false → u'.settled = true) := by
  cases hu with
  | ended settled ends =>
    rw [tryUpload, if_pos settled] at h
    obtain ⟨rfl, rfl⟩ := Prod.mk.inj h
    exact ⟨[], calls, .refl _ _ _, .ended settled ends, fun _ => settled⟩
  | waiting settled fits =>
    set refusal : CallRecord := ⟨.upload thread u.payload, .refused, false, none⟩
    have hfailed : ∀ n, ∀ r ∈ List.replicate n refusal, Fails thread [] False u.payload r := by
      intro n r hr
      rw [List.eq_of_mem_replicate hr]
      exact .refused
    have hlength : (List.replicate t refusal).length < max o.attempts 1 := by simpa using ht
    rcases tryUpload_cases settled h hs with ⟨a, hcalls, rfl⟩ | ⟨e, hcalls, rfl⟩ | ⟨hcalls, rfl⟩
    · have hnumbered : (u.settle (.ok a)).numbered = u.numbered := rfl
      exact ⟨_, _, .of_call hcalls hnumbered _,
        .ended (by simp) (.accepted fits (hfailed t) hlength), by simp⟩
    · refine ⟨_, _, .of_call hcalls (by split_ifs <;> rfl) _, ?_⟩
      rw [← List.replicate_succ']
      cases more with
      | true => exact ⟨.waiting settled fits, by simp⟩
      | false =>
        have hall : (List.replicate (t + 1) refusal).length = max o.attempts 1 := by
          rw [List.length_replicate, hlast rfl]
        exact ⟨.ended (by simp) (.refused fits (hfailed (t + 1)) hall), by simp⟩
    · have hends : o.UploadEnds thread (Fails thread [] False) u.payload _ none :=
        .crashed fits (hfailed t) hlength
      rw [← Upload.result_eq_none settled] at hends
      have hnumbered : { u with lost := true }.numbered = u.numbered := rfl
      exact ⟨_, _, .of_call hcalls hnumbered _, .ended rfl hends, fun _ => rfl⟩

theorem tryUploads_stands {us us' : List Upload} {logs : List (List CallRecord)}
    (hus : List.Forall₂ (Stands o thread t) us logs) (ht : t < max o.attempts 1)
    (hlast : more = false → t + 1 = max o.attempts 1)
    (h : tryUploads thread more us w = (us', w')) (hs : w'.stopped = false) :
    ∃ new logs', Advance us us' logs logs' w w' new ∧
      List.Forall₂ (Stands o thread (t + 1)) us' logs' ∧
      (more = false → us'.all Upload.settled = true) := by
  induction hus generalizing us' w with
  | nil =>
    obtain ⟨rfl, rfl⟩ := Prod.mk.inj h
    exact ⟨[], [], .refl _ _ _, .nil, fun _ => rfl⟩
  | @cons u calls us logs hu _ ih =>
    rcases hu₁ : tryUpload thread more u w with ⟨u₁, w₁⟩
    rcases hus₁ : tryUploads thread more us w₁ with ⟨us₁, w₂⟩
    rw [tryUploads, hu₁] at h
    dsimp only at h
    rw [hus₁] at h
    obtain ⟨rfl, rfl⟩ := Prod.mk.inj h
    have hs₁ : w₁.stopped = false := stopped_of_tryUploads hus₁ hs
    obtain ⟨new', logs', hadv', hstands', hsettled'⟩ := ih hus₁
    obtain ⟨new, calls', hadv, hstands, hsettled⟩ := tryUpload_stands hu ht hlast hu₁ hs₁
    refine ⟨new ++ new', calls' :: logs', hadv.cons hadv', .cons hstands hstands', ?_⟩
    intro hmore
    rw [List.all_cons, hsettled hmore, hsettled' hmore, Bool.and_true]

theorem ends_of_stands {us : List Upload} {logs : List (List CallRecord)}
    (h : List.Forall₂ (Stands o thread t) us logs) (hsettled : us.all Upload.settled = true) :
    List.Forall₂ (Ends o thread (Fails thread [] False)) us logs := by
  induction h with
  | nil => exact .nil
  | cons hu _ ih =>
    rw [List.all_cons, Bool.and_eq_true] at hsettled
    refine .cons ?_ (ih hsettled.2)
    cases hu with
    | waiting settled _ => cases settled.symm.trans hsettled.1
    | ended _ ends => exact ends

/-- Uploads side by side are tried until all have ended. -/
theorem uploadAll_ends {retries : ℕ} {us us' : List Upload} {logs : List (List CallRecord)}
    (hus : List.Forall₂ (Stands o thread t) us logs) (ht : t + retries + 1 = max o.attempts 1)
    (h : uploadAll thread retries us w = (us', w')) (hs : w'.stopped = false) :
    ∃ new logs', Advance us us' logs logs' w w' new ∧
      List.Forall₂ (Ends o thread (Fails thread [] False)) us' logs' := by
  induction retries generalizing us logs t w with
  | zero =>
    rw [uploadAll] at h
    split_ifs at h with hsettled
    · obtain ⟨rfl, rfl⟩ := Prod.mk.inj h
      exact ⟨[], logs, .refl _ _ _, ends_of_stands hus hsettled⟩
    · obtain ⟨new, logs', hadv, hstands, hall⟩ :=
        tryUploads_stands hus (by omega) (fun _ => by omega) h hs
      exact ⟨new, logs', hadv, ends_of_stands hstands (hall rfl)⟩
  | succ retries ih =>
    rw [uploadAll] at h
    split_ifs at h with hsettled
    · obtain ⟨rfl, rfl⟩ := Prod.mk.inj h
      exact ⟨[], logs, .refl _ _ _, ends_of_stands hus hsettled⟩
    · rcases hus₁ : tryUploads thread true us w with ⟨us₁, w₁⟩
      rw [hus₁] at h
      have hs₁ : w₁.stopped = false := stopped_of_uploadAll h hs
      obtain ⟨new, logs', hadv, hstands, -⟩ :=
        tryUploads_stands hus (by omega) (by simp) hus₁ hs₁
      obtain ⟨new', logs'', hadv', hends⟩ := ih hstands (by omega) h
      exact ⟨new ++ new', logs'', hadv.trans hadv', hends⟩

end

theorem map_numbered_uploadsOf (o : Outbox) (payloads : List (ℕ × Payload)) :
    (o.uploadsOf payloads).map numbered = payloads := by
  rw [uploadsOf, List.map_map]
  exact List.map_id _

theorem stands_uploadsOf (o : Outbox) (thread : Thread) (payloads : List (ℕ × Payload)) :
    List.Forall₂ (Stands o thread 0) (o.uploadsOf payloads)
      (List.replicate payloads.length []) := by
  induction payloads with
  | nil => exact .nil
  | cons numbered payloads ih =>
    obtain ⟨index, p⟩ := numbered
    refine .cons ?_ ih
    change Stands o thread 0 { index, payload := p, result := (o.oversized? p).map .error } []
    by_cases hlarge : p.size > o.maxUpload
    · have hover : o.oversized? p = some (.oversizedPayload p.size o.maxUpload) := if_pos hlarge
      rw [hover]
      exact .ended rfl (.tooLarge hlarge)
    · have hfits : o.oversized? p = none := if_neg hlarge
      rw [hfits]
      exact .waiting rfl (Nat.le_of_not_lt hlarge)

end Outbox
end MediaRelay
