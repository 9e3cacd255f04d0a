import MediaRelay.Proofs.World
/-! Calls to the platform and tries back to back, where the token does not fire: what one call
leaves behind, and the chain of tries that a retried job comes to. -/

namespace MediaRelay

variable {τ α : Type}

namespace World

def answered (w : World τ) (messenger : τ) (record : CallRecord) : World τ :=
  { w with messenger, calls := w.calls ++ [record], late := w.lateWith (.call record.call) }

@[simp] theorem calls_answered (w : World τ) (messenger : τ) (record : CallRecord) :
    (w.answered messenger record).calls = w.calls ++ [record] := rfl

@[simp] theorem messenger_answered (w : World τ) (messenger : τ) (record : CallRecord) :
    (w.answered messenger record).messenger = messenger := rfl

@[simp] theorem stopped_answered (w : World τ) (messenger : τ) (record : CallRecord) :
    (w.answered messenger record).stopped = w.stopped := rfl

theorem stopped_fire (w : World τ) : w.fire.stopped = true := by
  cases h : w.firedAt <;> simp [stopped, fire, h]

theorem sleep_zero {w : World τ} (h : w.stopped = false) : w.sleep 0 = (true, w) :=
  sleep_of_lt h (stopped_eq_false_iff.1 h).2

end World

namespace Job

theorem messenger_call (what : Call) (ask : τ → Answer α × τ) (handed : α → Option Attachment)
    (w : World τ) :
    (call what ask handed w).2.messenger = (ask w.messenger).2 := by
  rcases hask : ask w.messenger with ⟨answer, messenger⟩
  simp only [call, hask]
  cases answer <;> dsimp only <;> split_ifs <;> rfl

/-- A call that does not fire the token changes the platform and the log alone. -/
theorem preserves_call {P : World τ → Prop}
    (hP : ∀ w messenger record, P w → P (w.answered messenger record)) (what : Call)
    {ask : τ → Answer α × τ} (hask : ∀ s, (ask s).1.fires = false)
    (handed : α → Option Attachment) :
    (call what ask handed).Preserves P := by
  intro w hw
  have hfires := hask w.messenger
  rcases ha : ask w.messenger with ⟨answer, messenger⟩
  rw [ha] at hfires
  simp only [call, ha, hfires]
  cases answer <;> exact hP w messenger _ hw

/-- The three ways in which a call ends during which the token does not fire. -/
theorem call_cases {what : Call} {ask : τ → Answer α × τ} {handed : α → Option Attachment}
    {w w' : World τ} {o : Outcome α} (h : call what ask handed w = (o, w'))
    (hs : w'.stopped = false) :
    (∃ a, (ask w.messenger).1 = .accepted a false ∧ o = .done a ∧
      w' = w.answered (ask w.messenger).2 ⟨what, .accepted, false, handed a⟩) ∨
    (∃ e, (ask w.messenger).1 = .refused e false ∧ o = .failed (.transport e) ∧
      w' = w.answered (ask w.messenger).2 ⟨what, .refused, false, none⟩) ∨
    ((ask w.messenger).1 = .crashed ∧ o = .crashed ∧
      w' = w.answered (ask w.messenger).2 ⟨what, .crashed, false, none⟩) := by
  rcases hask : ask w.messenger with ⟨answer, messenger⟩
  rw [call, hask] at h
  have hfires : answer.fires = false := by
    by_contra hf
    have hw' : w'.stopped = true := by
      cases answer <;> obtain ⟨-, rfl⟩ := Prod.mk.inj h <;>
        simp_all [Answer.fires, World.stopped_fire]
    exact absurd (hs.symm.trans hw') (by decide)
  cases answer with
  | accepted a fires =>
    obtain rfl : fires = false := hfires
    obtain ⟨rfl, rfl⟩ := Prod.mk.inj h
    exact .inl ⟨a, rfl, rfl, rfl⟩
  | refused e fires =>
    obtain rfl : fires = false := hfires
    obtain ⟨rfl, rfl⟩ := Prod.mk.inj h
    exact .inr (.inl ⟨e, rfl, rfl, rfl⟩)
  | unanswered => cases hfires
  | crashed =>
    obtain ⟨rfl, rfl⟩ := Prod.mk.inj h
    exact .inr (.inr ⟨rfl, rfl, rfl⟩)

section

variable (what : Call) {ask : τ → Answer α × τ} (handed : α → Option Attachment) {w : World τ}
  {s' : τ}

theorem call_of_accepted {a : α} (h : ask w.messenger = (.accepted a false, s')) :
    call what ask handed w =
      (.done a, w.answered s' ⟨what, .accepted, false, handed a⟩) := by
  simp only [call, h]
  rfl

theorem call_of_refused {e : TransportError} (h : ask w.messenger = (.refused e false, s')) :
    call what ask handed w =
      (.failed (.transport e), w.answered s' ⟨what, .refused, false, none⟩) := by
  simp only [call, h]
  rfl

end

theorem stopped_of_call {what : Call} {ask : τ → Answer α × τ} {handed : α → Option Attachment}
    {w w' : World τ} {o : Outcome α} (h : call what ask handed w = (o, w'))
    (hs : w'.stopped = false) :
    w.stopped = false := by
  rcases call_cases h hs with ⟨a, -, -, rfl⟩ | ⟨e, -, -, rfl⟩ | ⟨-, -, rfl⟩ <;> exact hs

/-! ### Tries one by one -/

section

variable {delay : ℕ → Nanos} {attempt : Job τ α} {n k : ℕ} {w w₁ w' : World τ} {o : Outcome α}
  {e : MediaError}

theorem attempts_of_last (h : attempt w = (o, w'))
    (hlast : ∀ e, o = .failed e → e.retryable = true → n = 0) :
    attempts delay attempt n k w = (o, w') := by
  rw [attempts.eq_def]
  simp only [h]
  cases o with
  | failed e =>
    dsimp only
    split_ifs with he
    · obtain rfl := hlast e rfl he
      rfl
    · rfl
  | _ => rfl

theorem attempts_of_again (h : attempt w = (.failed e, w₁)) (he : e.retryable = true)
    (hsleep : w₁.sleep (delay k) = (true, w')) :
    attempts delay attempt (n + 1) k w = attempts delay attempt n (k + 1) w' := by
  rw [attempts.eq_def]
  simp only [h, he, if_true, hsleep]

/-- The token fires while a try is due. -/
theorem attempts_of_waits (h : attempt w = (.failed e, w₁)) (he : e.retryable = true)
    (hsleep : w₁.sleep (delay k) = (false, w')) :
    attempts delay attempt (n + 1) k w = (.waiting, w') := by
  rw [attempts.eq_def]
  simp only [h, he, if_true, hsleep]

end

inductive Tries (attempt : Job τ α) : ℕ → World τ → Outcome α → World τ → Prop
  | last {n : ℕ} {w w' : World τ} {o : Outcome α} (h : attempt w = (o, w'))
      (hlast : ∀ e, o = .failed e → e.retryable = true → n = 0) : Tries attempt n w o w'
  | again {n : ℕ} {w w₁ w' : World τ} {o : Outcome α} {e : MediaError}
      (h : attempt w = (.failed e, w₁))
      (hs : w₁.stopped = false) (he : e.retryable = true) (rest : Tries attempt n w₁ o w') :
      Tries attempt (n + 1) w o w'

theorem tries_of_attempts {attempt : Job τ α} {n k : ℕ} {w w' : World τ} {o : Outcome α}
    (h : attempts (fun _ => 0) attempt n k w = (o, w')) (hs : w'.stopped = false) :
    Tries attempt n w o w' := by
  induction n generalizing k w with
  | zero =>
    rw [attempts] at h
    rcases hw : attempt w with ⟨o₁, w₁⟩
    simp only [hw] at h
    have h' : (o₁, w₁) = (o, w') := by
      cases o₁ with
      | failed e => cases hr : e.retryable <;> simpa [hr] using h
      | _ => exact h
    exact .last (hw.trans h') fun _ _ _ => rfl
  | succ n ih =>
    rw [attempts] at h
    rcases hw : attempt w with ⟨o₁, w₁⟩
    simp only [hw] at h
    cases o₁ with
    | failed e =>
      cases hr : e.retryable with
      | false =>
        simp only [hr, Bool.false_eq_true, if_false] at h
        refine .last (hw.trans h) fun e' he hr' => ?_
        obtain ⟨rfl, -⟩ := Prod.mk.inj h
        obtain rfl : e = e' := by simpa using he
        exact absurd (hr.symm.trans hr') (by decide)
      | true =>
        simp only [hr, if_true] at h
        cases hs₁ : w₁.stopped with
        | true =>
          -- no time passes once the token has fired, so the tries would end in this world
          simp only [World.sleep, hs₁, if_true] at h
          rw [← (Prod.mk.inj h).2, hs₁] at hs
          exact absurd hs (by decide)
        | false =>
          rw [World.sleep_zero hs₁] at h
          exact .again hw hs₁ hr (ih h)
    | _ =>
      refine .last (hw.trans h) fun e he _ => ?_
      rw [← (Prod.mk.inj h).1] at he
      cases he

theorem attempts_of_tries {attempt : Job τ α} {n : ℕ} {w w' : World τ} {o : Outcome α}
    (h : Tries attempt n w o w') (k : ℕ) : attempts (fun _ => 0) attempt n k w = (o, w') := by
  induction h generalizing k with
  | last h hlast => exact attempts_of_last h hlast
  | again h hs he _ ih =>
    rw [attempts_of_again h he (World.sleep_zero hs)]
    exact ih (k + 1)

/-- A job that is left waiting only where the token has fired. -/
def WaitsStopped (attempt : Job τ α) : Prop :=
  ∀ w w', attempt w = (.waiting, w') → w'.stopped = true

theorem Tries.ne_waiting {attempt : Job τ α} (ha : attempt.WaitsStopped) {n : ℕ} {w w' : World τ}
    {o : Outcome α} (h : Tries attempt n w o w') (hs : w'.stopped = false) : o ≠ .waiting := by
  induction h with
  | last h _ =>
    rintro rfl
    exact absurd (hs.symm.trans (ha _ _ h)) (by decide)
  | again _ _ _ _ ih => exact ih hs

/-- A retried job is a chain of tries, and begins before the token has fired. -/
theorem tries_of_retry {attempt : Job τ α} (ha : attempt.WaitsStopped) {tries : ℕ}
    {w w' : World τ} {o : Outcome α} (h : retry (.immediate tries) attempt w = (o, w'))
    (hs : w'.stopped = false) :
    w.stopped = false ∧ Tries attempt (tries - 1) w o w' := by
  rw [retry, watch] at h
  split_ifs at h with hw
  · rw [← (Prod.mk.inj h).2, hw] at hs
    exact absurd hs (by decide)
  · rcases hatt : attempts (fun _ => 0) attempt (tries - 1) 0 w with ⟨o₁, w₁⟩
    simp only [Backoff.immediate, hatt] at h
    obtain rfl : w₁ = w' := by
      cases o₁ <;> exact (Prod.mk.inj h).2
    have ht := tries_of_attempts hatt hs
    refine ⟨by simpa using hw, ?_⟩
    have hne := ht.ne_waiting ha hs
    cases o₁ with
    | waiting => exact absurd rfl hne
    | _ => rwa [← (Prod.mk.inj h).1]

theorem retry_of_tries {attempt : Job τ α} {tries : ℕ} {w w' : World τ} {o : Outcome α}
    (hw : w.stopped = false) (h : Tries attempt (tries - 1) w o w') (ho : o ≠ .waiting) :
    retry (.immediate tries) attempt w = (o, w') := by
  have hatt := attempts_of_tries h 0
  rw [retry, watch, if_neg (by simp [hw])]
  simp only [Backoff.immediate, hatt]
  cases o with
  | waiting => exact absurd rfl ho
  | _ => rfl

theorem waitsStopped_call (what : Call) (ask : τ → Answer α × τ) (handed : α → Option Attachment) :
    (call what ask handed).WaitsStopped := by
  intro w w' h
  by_contra hs
  rcases call_cases h (by simpa using hs) with ⟨a, -, ho, -⟩ | ⟨e, -, ho, -⟩ | ⟨-, ho, -⟩ <;>
    cases ho

/-- A call that is tried again and again: refused, until it is accepted, refused for the last time,
or crashes. -/
theorem Tries.call_cases {what : Call} {ask : τ → Answer α × τ} {handed : α → Option Attachment}
    {n : ℕ} {w w' : World τ} {o : Outcome α} (h : Tries (call what ask handed) n w o w')
    (hs : w'.stopped = false) :
    (∃ a, ∃ k ≤ n, o = .done a ∧
      w'.calls = w.calls ++ List.replicate k ⟨what, .refused, false, none⟩ ++
        [⟨what, .accepted, false, handed a⟩]) ∨
    (∃ e, o = .failed (.transport e) ∧
      w'.calls = w.calls ++ List.replicate (n + 1) ⟨what, .refused, false, none⟩) ∨
    (∃ k ≤ n, o = .crashed ∧
      w'.calls = w.calls ++ List.replicate k ⟨what, .refused, false, none⟩ ++
        [⟨what, .crashed, false, none⟩]) := by
  induction h with
  | last h hlast =>
    rcases Job.call_cases h hs with ⟨a, -, rfl, rfl⟩ | ⟨e, -, rfl, rfl⟩ | ⟨-, rfl, rfl⟩
    · exact .inl ⟨a, 0, Nat.zero_le _, rfl, by simp⟩
    · obtain rfl := hlast _ rfl rfl
      exact .inr (.inl ⟨e, rfl, by simp⟩)
    · exact .inr (.inr ⟨0, Nat.zero_le _, rfl, by simp⟩)
  | again h hs₁ _ _ ih =>
    rcases Job.call_cases h hs₁ with ⟨a, -, ho, -⟩ | ⟨e, -, -, rfl⟩ | ⟨-, ho, -⟩
    · cases ho
    · rcases ih hs with ⟨a, k, hk, rfl, hc⟩ | ⟨e, rfl, hc⟩ | ⟨k, hk, rfl, hc⟩
      · exact .inl ⟨a, k + 1, Nat.succ_le_succ hk, rfl, by simp [hc, List.replicate_succ]⟩
      · exact .inr (.inl ⟨e, rfl, by simp [hc, List.replicate_succ]⟩)
      · exact .inr (.inr ⟨k + 1, Nat.succ_le_succ hk, rfl, by simp [hc, List.replicate_succ]⟩)
    · cases ho

end Job
end MediaRelay
