import Mathlib.Order.Bounds.Basic
import MediaRelay.Proofs.Outbox.Budget
import MediaRelay.Proofs.Outbox.Message
import MediaRelay.Proofs.Outbox.Report
/-! One payload on its way through the outbox. An attempt uploads it and sends what the upload has
handed out, and whichever of the two fails, the next attempt begins with the upload. So the script
of what the platform answers, attempt by attempt, tells which calls are made and how it ends. -/

namespace MediaRelay

open CallRecord (upload? sent?)

variable {τ : Type}

def CallRecord.send? (r : CallRecord) : Option (Thread × List Attachment) := sent? r.verdict r

inductive MediaTry where
  | notUploaded (cause : TransportError)
  | notSent (a : Attachment) (cause : TransportError)
  | sent (a : Attachment)

namespace MediaTry

def outcome : MediaTry → Outcome Unit
  | .notUploaded e => .failed (.transport e)
  | .notSent _ e => .failed (.transport e)
  | .sent _ => .done ()

def uploaded (thread : Thread) (p : Payload) (a : Attachment) : CallRecord :=
  ⟨.upload thread p, .accepted, false, some a⟩

def records (thread : Thread) (p : Payload) : MediaTry → List CallRecord
  | .notUploaded _ => [⟨.upload thread p, .refused, false, none⟩]
  | .notSent a _ => [uploaded thread p a, ⟨.send thread [a], .refused, false, none⟩]
  | .sent a => [uploaded thread p a, ⟨.send thread [a], .accepted, false, none⟩]

def Answers [Transport τ] (thread : Thread) (p : Payload) : MediaTry → τ → τ → Prop
  | .notUploaded e, s, s' => Transport.upload thread p s = (.refused e false, s')
  | .notSent a e, s, s' => ∃ s₁, Transport.upload thread p s = (.accepted a false, s₁) ∧
      Transport.sendAttachments thread [a] s₁ = (.refused e false, s')
  | .sent a, s, s' => ∃ s₁, Transport.upload thread p s = (.accepted a false, s₁) ∧
      Transport.sendAttachments thread [a] s₁ = (.accepted () false, s')

theorem sent_or_failed (t : MediaTry) :
    (∃ a, t = .sent a) ∨ ∃ e, t.outcome = .failed (.transport e) := by
  cases t with
  | notUploaded e => exact .inr ⟨e, rfl⟩
  | notSent _ e => exact .inr ⟨e, rfl⟩
  | sent a => exact .inl ⟨a, rfl⟩

/-- The attempts of a script, counted from one, in which both calls are accepted. -/
def sentAt (script : List MediaTry) : Set ℕ :=
  {k | 1 ≤ k ∧ ∃ a, script[k - 1]? = some (.sent a)}

section

variable {t : MediaTry} {script : List MediaTry} {k : ℕ} {e : TransportError}

theorem isLeast_sentAt_sent (a : Attachment) : IsLeast (sentAt (.sent a :: script)) 1 :=
  ⟨⟨Nat.le_refl 1, a, rfl⟩, fun _ h => h.1⟩

theorem mem_sentAt_again (h : t.outcome = .failed (.transport e)) :
    k ∈ sentAt (t :: script) ↔ 2 ≤ k ∧ k - 1 ∈ sentAt script := by
  match k with
  | 0 => simp [sentAt]
  | 1 =>
    have hne : ∀ a, t ≠ .sent a := by
      rintro a rfl
      cases h
    simp [sentAt, hne]
  | k + 2 => simp [sentAt]

theorem isLeast_sentAt_again (h : t.outcome = .failed (.transport e))
    (hk : IsLeast (sentAt script) k) : IsLeast (sentAt (t :: script)) (k + 1) := by
  have hpos := hk.1.1
  refine ⟨(mem_sentAt_again h).2 ⟨by omega, hk.1⟩, fun j hj => ?_⟩
  obtain ⟨hj, hmem⟩ := (mem_sentAt_again h).1 hj
  have := hk.2 hmem
  omega

theorem nonempty_sentAt_again (h : t.outcome = .failed (.transport e)) :
    (sentAt (t :: script)).Nonempty ↔ (sentAt script).Nonempty := by
  constructor
  · rintro ⟨k, hk⟩
    exact ⟨k - 1, ((mem_sentAt_again h).1 hk).2⟩
  · rintro ⟨k, hk⟩
    have hpos := hk.1
    exact ⟨k + 1, (mem_sentAt_again h).2 ⟨by omega, hk⟩⟩

end

variable (thread : Thread) (p : Payload)

theorem mem_records {t : MediaTry} {r : CallRecord} (h : r ∈ t.records thread p) :
    r.call = .upload thread p ∨ ∃ a, r.call = .send thread [a] := by
  cases t with
  | notUploaded _ => exact .inl (by rw [List.mem_singleton.1 h])
  | notSent a _ =>
    rcases List.mem_pair.1 h with rfl | rfl
    · exact .inl rfl
    · exact .inr ⟨a, rfl⟩
  | sent a =>
    rcases List.mem_pair.1 h with rfl | rfl
    · exact .inl rfl
    · exact .inr ⟨a, rfl⟩

theorem length_uploads_records (t : MediaTry) :
    ((t.records thread p).filterMap upload?).length = 1 := by
  cases t <;> rfl

theorem length_sends_records (t : MediaTry) :
    ((t.records thread p).filterMap CallRecord.send?).length ≤ 1 := by
  cases t with
  | notUploaded _ => exact Nat.zero_le _
  | _ => exact Nat.le_refl _

theorem acceptedSends_records {t : MediaTry} {e : TransportError}
    (h : t.outcome = .failed (.transport e)) :
    (t.records thread p).filterMap (sent? .accepted) = [] := by
  cases t with
  | sent _ => cases h
  | _ => rfl

/-- In the calls of attempts, a send follows the upload that handed out what it sends. -/
theorem follows_records (tries : List MediaTry) {before after : List CallRecord} {r : CallRecord}
    (h : tries.flatMap (records thread p) = before ++ r :: after) (hr : r.send?.isSome) :
    ∃ earlier a, before = earlier ++ [uploaded thread p a] ∧ r.call = .send thread [a] := by
  induction tries generalizing before with
  | nil => simp at h
  | cons t tries ih =>
    rw [List.flatMap_cons] at h
    -- an attempt of two calls, of which the second is a send of what the first handed out
    have hpair : ∀ {a : Attachment} {v : Verdict},
        t.records thread p = [uploaded thread p a, ⟨.send thread [a], v, false, none⟩] →
          ∃ earlier a, before = earlier ++ [uploaded thread p a] ∧ r.call = .send thread [a] := by
      intro a v ht
      rw [ht] at h
      match before with
      | [] =>
        obtain ⟨rfl, -⟩ := List.cons.inj h
        cases hr
      | [b] =>
        obtain ⟨rfl, hrest⟩ := List.cons.inj h
        obtain ⟨rfl, -⟩ := List.cons.inj hrest
        exact ⟨[], a, rfl, rfl⟩
      | b :: c :: before =>
        obtain ⟨earlier, a, rfl, hsend⟩ := ih (List.cons.inj (List.cons.inj h).2).2
        exact ⟨b :: c :: earlier, a, rfl, hsend⟩
    cases t with
    | notUploaded e =>
      match before with
      | [] =>
        obtain ⟨rfl, -⟩ := List.cons.inj h
        cases hr
      | b :: before =>
        obtain ⟨earlier, a, rfl, hsend⟩ := ih (List.cons.inj h).2
        exact ⟨b :: earlier, a, rfl, hsend⟩
    | notSent a e => exact hpair rfl
    | sent a => exact hpair rfl

end MediaTry

open MediaTry (records uploaded sentAt)

inductive Tried : List MediaTry → List MediaTry → Outcome Unit → Prop
  | sent (a : Attachment) (unused : List MediaTry) : Tried (.sent a :: unused) [.sent a] (.done ())
  | gaveUp {t : MediaTry} {e : TransportError} (h : t.outcome = .failed (.transport e)) :
      Tried [t] [t] t.outcome
  | again {t : MediaTry} {e : TransportError} {script tries : List MediaTry} {o : Outcome Unit}
      (h : t.outcome = .failed (.transport e)) (rest : Tried script tries o) :
      Tried (t :: script) (t :: tries) o

structure SharesBudget (thread : Thread) (p : Payload) (budget : ℕ) (script : List MediaTry)
    (new : List CallRecord) (o : Outcome Unit) : Prop where
  made : ∀ r ∈ new, r.call = .upload thread p ∨ ∃ a, r.call = .send thread [a]
  bounded : (new.filterMap CallRecord.send?).length ≤ (new.filterMap upload?).length ∧
    (new.filterMap upload?).length ≤ budget
  follows : ∀ before r after, new = before ++ r :: after → r.send?.isSome →
    ∃ earlier a, before = earlier ++ [uploaded thread p a] ∧ r.call = .send thread [a]
  done_iff : o = .done () ↔ (sentAt script).Nonempty
  /-- the last call is the one send that was accepted -/
  sent : o = .done () → IsLeast (sentAt script) (new.filterMap upload?).length ∧
    ∃ earlier a, new = earlier ++ [⟨.send thread [a], .accepted, false, none⟩] ∧
      earlier.filterMap (sent? .accepted) = []
  gaveUp : o ≠ .done () → (new.filterMap upload?).length = budget ∧
    new.filterMap (sent? .accepted) = [] ∧
    ∃ t e, script.getLast? = some t ∧ t.outcome = .failed (.transport e) ∧
      o = .failed (.transport e)

namespace Tried

variable {script tries : List MediaTry} {o : Outcome Unit}

theorem length_le (h : Tried script tries o) : tries.length ≤ script.length := by
  induction h with
  | sent _ _ => exact Nat.le_add_left 1 _
  | gaveUp _ => exact Nat.le_refl _
  | again _ _ ih => exact Nat.succ_le_succ ih

theorem ne_waiting (h : Tried script tries o) : o ≠ .waiting := by
  induction h with
  | sent _ _ => simp
  | gaveUp h => simp [h]
  | again _ _ ih => exact ih

theorem done_iff (h : Tried script tries o) : o = .done () ↔ (sentAt script).Nonempty := by
  induction h with
  | sent a _ => exact iff_of_true rfl ⟨1, (MediaTry.isLeast_sentAt_sent a).1⟩
  | gaveUp h =>
    rw [MediaTry.nonempty_sentAt_again h, h]
    exact iff_of_false (by simp) (by simp [sentAt])
  | again h _ ih => rw [ih, MediaTry.nonempty_sentAt_again h]

variable (thread : Thread) (p : Payload)

theorem sent_of_done (h : Tried script tries o) (ho : o = .done ()) :
    IsLeast (sentAt script) tries.length ∧ ∃ earlier a, tries.flatMap (records thread p) =
        earlier ++ [⟨.send thread [a], .accepted, false, none⟩] ∧
      earlier.filterMap (sent? .accepted) = [] := by
  induction h with
  | sent a _ => exact ⟨MediaTry.isLeast_sentAt_sent a, [uploaded thread p a], a, rfl, rfl⟩
  | gaveUp h =>
    rw [h] at ho
    cases ho
  | @again t _ _ _ _ h _ ih =>
    obtain ⟨hleast, earlier, a, hcalls, hnone⟩ := ih ho
    refine ⟨MediaTry.isLeast_sentAt_again h hleast, t.records thread p ++ earlier, a, ?_, ?_⟩
    · rw [List.flatMap_cons, hcalls, ← List.append_assoc]
    · rw [List.filterMap_append, MediaTry.acceptedSends_records thread p h, hnone]
      rfl

theorem gaveUp_of_ne_done (h : Tried script tries o) (ho : o ≠ .done ()) :
    tries.length = script.length ∧
    (tries.flatMap (records thread p)).filterMap (sent? .accepted) = [] ∧
    ∃ t e, script.getLast? = some t ∧ t.outcome = .failed (.transport e) ∧
      o = .failed (.transport e) := by
  induction h with
  | sent _ _ => exact absurd rfl ho
  | @gaveUp t e h =>
    refine ⟨rfl, ?_, t, e, rfl, h, h⟩
    rw [List.flatMap_singleton, MediaTry.acceptedSends_records thread p h]
  | again h rest ih =>
    obtain ⟨hlength, hnone, t, e, hlast, houtcome, ho⟩ := ih ho
    refine ⟨congrArg (· + 1) hlength, ?_, t, e, ?_, houtcome, ho⟩
    · rw [List.flatMap_cons, List.filterMap_append, MediaTry.acceptedSends_records thread p h,
        hnone]
      rfl
    · rw [List.getLast?_cons, hlast]
      rfl

theorem length_uploads_flatMap (tries : List MediaTry) :
    ((tries.flatMap (records thread p)).filterMap upload?).length = tries.length := by
  induction tries with
  | nil => rfl
  | cons t tries ih =>
    rw [List.flatMap_cons, List.filterMap_append, List.length_append, ih,
      MediaTry.length_uploads_records, List.length_cons, Nat.add_comm]

theorem length_sends_flatMap (tries : List MediaTry) :
    ((tries.flatMap (records thread p)).filterMap CallRecord.send?).length ≤ tries.length := by
  induction tries with
  | nil => exact Nat.le_refl _
  | cons t tries ih =>
    rw [List.flatMap_cons, List.filterMap_append, List.length_append, List.length_cons]
    have := MediaTry.length_sends_records thread p t
    omega

theorem sharesBudget (h : Tried script tries o) :
    SharesBudget thread p script.length script (tries.flatMap (records thread p)) o := by
  have hlength := length_uploads_flatMap thread p tries
  refine ⟨?_, ?_, fun before r after => MediaTry.follows_records thread p tries, h.done_iff, ?_, ?_⟩
  · intro r hr
    obtain ⟨t, -, hr⟩ := List.mem_flatMap.1 hr
    exact MediaTry.mem_records thread p hr
  · rw [hlength]
    exact ⟨length_sends_flatMap thread p tries, h.length_le⟩
  · rw [hlength]
    exact h.sent_of_done thread p
  · rw [hlength]
    exact h.gaveUp_of_ne_done thread p

end Tried

namespace Outbox

variable [Transport τ] {thread : Thread} {p : Payload}

/-- One attempt. -/
theorem uploadThenSend_of_answers {t : MediaTry} {w : World τ} {s' : τ}
    (h : t.Answers thread p w.messenger s') :
    ∃ w', ((uploadOnce thread p).bind fun a => sendOnce thread [a]) w = (t.outcome, w') ∧
      w'.messenger = s' ∧ w'.calls = w.calls ++ t.records thread p ∧ w'.stopped = w.stopped := by
  cases t with
  | notUploaded e =>
    have hupload := Job.call_of_refused (.upload thread p) some h
    exact ⟨_, Job.bind_of_failed hupload, rfl, rfl, rfl⟩
  | notSent a e =>
    obtain ⟨s₁, hupload, hsend⟩ := h
    have hupload := Job.call_of_accepted (.upload thread p) some hupload
    have hsend := Job.call_of_refused (.send thread [a]) (fun () => none)
      (w := w.answered s₁ (uploaded thread p a)) hsend
    exact ⟨_, (Job.bind_of_eq_done hupload).trans hsend, rfl, by simp [records, uploaded], rfl⟩
  | sent a =>
    obtain ⟨s₁, hupload, hsend⟩ := h
    have hupload := Job.call_of_accepted (.upload thread p) some hupload
    have hsend := Job.call_of_accepted (.send thread [a]) (fun () => none)
      (w := w.answered s₁ (uploaded thread p a)) hsend
    exact ⟨_, (Job.bind_of_eq_done hupload).trans hsend, rfl, by simp [records, uploaded], rfl⟩

/-- The attempts follow the script up to the first in which both calls are accepted. -/
theorem tries_of_trace {script : List MediaTry} {n : ℕ} {w : World τ} {s' : τ}
    (hw : w.stopped = false) (hlength : script.length = n + 1)
    (hscript : Trace (MediaTry.Answers thread p) script w.messenger s') :
    ∃ tries o w', Tried script tries o ∧
      Job.Tries ((uploadOnce thread p).bind fun a => sendOnce thread [a]) n w o w' ∧
      w'.calls = w.calls ++ tries.flatMap (records thread p) := by
  generalize hs : w.messenger = s at hscript
  induction hscript generalizing n w with
  | nil => cases hlength
  | @cons t script s s₁ s' hanswers later ih =>
    subst hs
    obtain ⟨w₁, hrun, hmessenger, hcalls, hstopped⟩ := uploadThenSend_of_answers hanswers
    rcases t.sent_or_failed with ⟨a, rfl⟩ | ⟨e, houtcome⟩
    · refine ⟨_, _, w₁, .sent a script, .last hrun fun e he => ?_, ?_⟩
      · cases he
      · rw [hcalls, List.flatMap_singleton]
    · rw [houtcome] at hrun
      cases n with
      | zero =>
        obtain rfl : script = [] := List.eq_nil_of_length_eq_zero (by simpa using hlength)
        exact ⟨_, _, w₁, .gaveUp houtcome, .last (houtcome ▸ hrun) fun _ _ _ => rfl,
          by rw [hcalls, List.flatMap_singleton]⟩
      | succ n =>
        have hw₁ : w₁.stopped = false := hstopped.trans hw
        obtain ⟨tries, o, w', htried, htries, hrest⟩ :=
          ih hw₁ (by simpa using hlength) hmessenger
        refine ⟨t :: tries, o, w', .again houtcome htried, .again hrun hw₁ rfl htries, ?_⟩
        rw [hrest, hcalls, List.flatMap_cons, List.append_assoc]

/-- A payload that is not too large is uploaded and sent until both are accepted in one attempt, in
at most so many attempts. -/
theorem sendMedia_sharesBudget (o : Outbox) (thread : Thread) (p : Payload)
    (hsize : p.size ≤ o.maxUpload) {w : World τ} (hw : w.stopped = false) {script : List MediaTry}
    {s' : τ} (hlength : script.length = max o.attempts 1)
    (hscript : Trace (MediaTry.Answers thread p) script w.messenger s') :
    ∃ new, (o.sendMedia thread p w).2.calls = w.calls ++ new ∧
      SharesBudget thread p (max o.attempts 1) script new (o.sendMedia thread p w).1 := by
  have hpositive : script.length = max o.attempts 1 - 1 + 1 := by omega
  obtain ⟨tries, outcome, w', htried, htries, hcalls⟩ := tries_of_trace hw hpositive hscript
  have houtcome : outcome ≠ .waiting := htried.ne_waiting
  have hrun : o.sendMedia thread p w = (outcome, w') := by
    rw [sendMedia, oversized?, if_neg (Nat.not_lt.2 hsize)]
    exact Job.retry_of_tries hw htries houtcome
  rw [hrun, ← hlength]
  exact ⟨_, hcalls, htried.sharesBudget thread p⟩

end Outbox

/-! A platform that answers by the script. -/

structure Reciter where
  left : List MediaTry

namespace Reciter

def next (s : Reciter) : MediaTry := s.left.headD (.notUploaded .missingAttachment)

def rest (s : Reciter) : Reciter := ⟨s.left.tail⟩

instance : Transport Reciter where
  selfId _ := 1
  textLimit _ := none
  sendText _ _ s := (.accepted () false, s)
  upload _ _ s :=
    match s.next with
    | .notUploaded e => (.refused e false, s.rest)
    | .notSent a _ => (.accepted a false, s)
    | .sent a => (.accepted a false, s)
  sendAttachments _ _ s :=
    match s.next with
    | .notSent _ e => (.refused e false, s.rest)
    | _ => (.accepted () false, s.rest)

/-- Every script is the script of some platform. -/
theorem trace_left (thread : Thread) (p : Payload) (script : List MediaTry) :
    Trace (MediaTry.Answers thread p) script (⟨script⟩ : Reciter) ⟨[]⟩ := by
  induction script with
  | nil => exact .nil _
  | cons t script ih =>
    refine .cons ?_ ih
    cases t with
    | notUploaded e => rfl
    | notSent a e => exact ⟨_, rfl, rfl⟩
    | sent a => exact ⟨_, rfl, rfl⟩

def world (script : List MediaTry) : World Reciter :=
  { network := ⟨fun _ _ => .stops⟩, client := { timeout := 1000 }, messenger := ⟨script⟩ }

/-- The upload is refused, then the send, and a third attempt brings both through. -/
def script : List MediaTry :=
  [.notUploaded .missingAttachment, .notSent ⟨"a", .photo⟩ (.rejected "send refused"),
    .sent ⟨"b", .photo⟩]

theorem sendMedia_sharesBudget_script :
    let o : Outbox := { attempts := 3, maxUpload := 100 }
    let p : Payload := ⟨⟨#[65]⟩, "image/png"⟩
    p.size ≤ o.maxUpload ∧ (world script).stopped = false ∧
      script.length = max o.attempts 1 ∧
      Trace (MediaTry.Answers 42 p) script (world script).messenger ⟨[]⟩ ∧
      ∃ new, (o.sendMedia 42 p (world script)).2.calls = (world script).calls ++ new ∧
        SharesBudget 42 p 3 script new (o.sendMedia 42 p (world script)).1 :=
  ⟨by decide, rfl, rfl, trace_left 42 _ script,
    Outbox.sendMedia_sharesBudget _ 42 _ (by decide) rfl rfl (trace_left 42 _ script)⟩

end Reciter
end MediaRelay
