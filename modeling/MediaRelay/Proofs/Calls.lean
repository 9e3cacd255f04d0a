import MediaRelay.Proofs.Download
import MediaRelay.Proofs.Outbox.Report
import MediaRelay.Proofs.Token
/-! Which calls are made of the platform. A job that makes calls of one kind alone leaves a log that
goes on with calls of that kind, and this is a property of the world like any other, kept by what
the job is made of. -/

namespace MediaRelay

variable {τ α : Type}

namespace Call

def thread : Call → Thread
  | .text thread _ => thread
  | .upload thread _ => thread
  | .send thread _ => thread

def IsQuiet : Call → Prop
  | .text _ _ => False
  | _ => True

end Call

namespace World

variable {C D : Call → Prop} {w w₁ w' : World τ}

def MakesOnly (C : Call → Prop) (w w' : World τ) : Prop :=
  ∃ new, w'.calls = w.calls ++ new ∧ ∀ r ∈ new, C r.call

theorem MakesOnly.of_eq (h : w'.calls = w.calls) : MakesOnly C w w' :=
  ⟨[], by rw [h, List.append_nil], by simp⟩

theorem MakesOnly.refl (w : World τ) : MakesOnly C w w := .of_eq rfl

theorem MakesOnly.trans (h : MakesOnly C w w₁) (h' : MakesOnly C w₁ w') : MakesOnly C w w' := by
  obtain ⟨new, hcalls, hnew⟩ := h
  obtain ⟨new', hcalls', hnew'⟩ := h'
  refine ⟨new ++ new', by rw [hcalls', hcalls, List.append_assoc], ?_⟩
  exact List.forall_mem_append.2 ⟨hnew, hnew'⟩

theorem MakesOnly.mono (h : MakesOnly C w w') (hCD : ∀ c, C c → D c) : MakesOnly D w w' := by
  obtain ⟨new, hcalls, hnew⟩ := h
  exact ⟨new, hcalls, fun r hr => hCD _ (hnew r hr)⟩

/-- Work on the web makes no calls. -/
theorem offline_makesOnly (C : Call → Prop) (w : World τ) : World.Offline (MakesOnly C w) where
  timeless _ _ h := h
  requests _ _ _ h := h
  jar _ _ h := h
  stops _ _ h _ := h

end World

namespace Job

theorem requests_call (what : Call) (ask : τ → Answer α × τ) (handed : α → Option Attachment)
    (w : World τ) : (call what ask handed w).2.requests = w.requests := by
  rcases hask : ask w.messenger with ⟨answer, messenger⟩
  simp only [call, hask]
  cases answer <;> dsimp only <;> split_ifs <;> rfl

/-- The platform refuses in its own words. -/
theorem cause_call {what : Call} {ask : τ → Answer α × τ} {handed : α → Option Attachment}
    {w w' : World τ} {e : MediaError} (h : call what ask handed w = (.failed e, w')) :
    ∃ c, e = .transport c := by
  rcases hask : ask w.messenger with ⟨answer, messenger⟩
  rw [call, hask] at h
  cases answer with
  | refused c fires =>
    obtain ⟨⟨⟩, -⟩ := Prod.mk.inj h
    exact ⟨c, rfl⟩
  | _ => cases (Prod.mk.inj h).1

theorem Retried.last_failed {attempt : Job τ α} {w w' : World τ} {e : MediaError}
    (h : Retried attempt w (.failed e) w') : ∃ w₁, attempt w₁ = (.failed e, w') := by
  generalize ho : Outcome.failed e = o at h
  induction h with
  | last hlast =>
    subst ho
    exact ⟨_, hlast⟩
  | waits => cases ho
  | again _ _ _ ih => exact ih ho

/-- A retried job fails as its last try did, or is cancelled. -/
theorem retry_failed {b : Backoff} {attempt : Job τ α} {w w' : World τ} {e : MediaError}
    (h : retry b attempt w = (.failed e, w')) :
    e = .cancelled ∨ ∃ w₁, attempt w₁ = (.failed e, w') := by
  rw [retry, watch] at h
  split_ifs at h
  · obtain ⟨⟨⟩, -⟩ := Prod.mk.inj h
    exact .inl rfl
  · rcases hatt : attempts b.delay attempt b.retries 0 w with ⟨o, w₁⟩
    simp only [hatt] at h
    cases o with
    | waiting =>
      obtain ⟨⟨⟩, -⟩ := Prod.mk.inj h
      exact .inl rfl
    | failed e =>
      obtain ⟨⟨⟩, rfl⟩ := Prod.mk.inj h
      exact .inr (retried_of_attempts hatt).last_failed
    | _ => cases (Prod.mk.inj h).1

theorem preserves_makesOnly {C : Call → Prop} {what : Call} (h : C what)
    (ask : τ → Answer α × τ) (handed : α → Option Attachment) (w : World τ) :
    (call what ask handed).Preserves (World.MakesOnly C w) := by
  intro w₁ hw₁
  obtain ⟨r, rfl, hcalls⟩ := exists_record_call what ask handed w₁
  exact hw₁.trans ⟨[r], hcalls, by simpa using h⟩

end Job

namespace Outbox

variable [Transport τ] {P : World τ → Prop} {thread : Thread}

theorem outgoing_makesOnly {C : Call → Prop} (hupload : ∀ p, C (.upload thread p))
    (hsend : ∀ attachments, C (.send thread attachments)) (w : World τ) :
    Outgoing (World.MakesOnly C w) thread where
  timeless _ _ h := h
  upload p := Job.preserves_makesOnly (hupload p) _ _ w
  send attachments := Job.preserves_makesOnly (hsend attachments) _ _ w

theorem preserves_sendPieces (hP : World.Timeless P) (o : Outbox) {pieces : List String}
    (h : ∀ piece ∈ pieces, (sendTextOnce (τ := τ) thread piece).Preserves P) :
    (o.sendPieces (τ := τ) thread pieces).Preserves P := by
  induction pieces with
  | nil => exact Job.preserves_pure ()
  | cons piece rest ih =>
    obtain ⟨hpiece, hrest⟩ := List.forall_mem_cons.1 h
    exact (hpiece.retry hP _).bind fun _ => ih hrest

/-- A message goes out in the pieces that the platform asks for when it begins. -/
theorem makesOnly_sendMessage (o : Outbox) (text : String) (w : World τ) :
    World.MakesOnly
      (fun c => ∃ piece ∈ textPieces (Transport.textLimit w.messenger) text,
        c = .text thread piece)
      w (o.sendMessage thread text w).2 :=
  preserves_sendPieces (fun _ _ h => h) o
    (fun piece hpiece => Job.preserves_makesOnly ⟨piece, hpiece, rfl⟩ _ _ w) w (.refl w)

theorem requests_sendMessage (o : Outbox) (text : String) (w : World τ) :
    (o.sendMessage thread text w).2.requests = w.requests :=
  preserves_sendPieces (P := fun w' : World τ => w'.requests = w.requests) (fun _ _ h => h) o
    (fun _ _ w₁ hw₁ => (Job.requests_call _ _ _ w₁).trans hw₁) w rfl

end Outbox
end MediaRelay
