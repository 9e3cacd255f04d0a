import MediaRelay.Proofs.Retry
/-! What a job asks for once the token has fired, from the jobs it is made of. A prompt job that
begins before the token has fired asks for nothing after it, since it is left waiting where the
token fires. A single call may be under way then, and is timely: a retried one makes no other. -/

namespace MediaRelay

variable {τ α β : Type}

namespace World

theorem lateWith_of_not_stopped {w : World τ} (h : w.stopped = false) (a : Asked) :
    w.lateWith a = w.late := by
  simp [lateWith, h]

/-- Where all of a time has passed, the token did not fire in it. -/
theorem stopped_of_sleep {w w' : World τ} {time : Nanos} (h : w.sleep time = (true, w')) :
    w'.stopped = false := by
  unfold sleep at h
  split_ifs at h with hw
  · cases h
  have hfired : w.firedAt = none := by
    simp only [stopped, Bool.or_eq_true, not_or] at hw
    simpa using hw.1
  split at h
  · next deadline hdeadline =>
    split_ifs at h with hd
    · cases h
    · obtain rfl := (Prod.mk.inj h).2
      simpa [stopped, hfired, hdeadline] using hd
  · next hdeadline =>
    obtain rfl := (Prod.mk.inj h).2
    simp [stopped, hfired, hdeadline]

theorem late_of_sleep {w w' : World τ} {time : Nanos} {passed : Bool}
    (h : w.sleep time = (passed, w')) : w'.late = w.late :=
  Timeless.of_sleep (P := fun w' => w'.late = w.late) (fun _ _ h => h) rfl h

theorem calls_of_sleep {w w' : World τ} {time : Nanos} {passed : Bool}
    (h : w.sleep time = (passed, w')) : w'.calls = w.calls :=
  Timeless.of_sleep (P := fun w' => w'.calls = w.calls) (fun _ _ h => h) rfl h

theorem sleep_of_stopped {w : World τ} (h : w.stopped = true) (time : Nanos) :
    w.sleep time = (false, w) := if_pos h

end World

namespace Job

/-- Whatever the world, nothing is asked for after the token has fired. -/
def IsPunctual (job : Job τ α) : Prop := ∀ w, (job w).2.late = w.late

/-- Begun before the token has fired, the job asks for nothing after it. -/
def IsTimely (job : Job τ α) : Prop := ∀ w, w.stopped = false → (job w).2.late = w.late

structure IsPrompt (job : Job τ α) : Prop where
  timely : job.IsTimely
  inTime : ∀ w a w', w.stopped = false → job w = (.done a, w') → w'.stopped = false

theorem isPunctual_iff {job : Job τ α} :
    job.IsPunctual ↔ ∀ late, job.Preserves fun w => w.late = late :=
  ⟨fun h _ w hw => (h w).trans hw, fun h w => h w.late w rfl⟩

theorem isPunctual_pure (a : α) : (pure a : Job τ α).IsPunctual := fun _ => rfl

theorem isPunctual_fail (e : MediaError) : (fail e : Job τ α).IsPunctual := fun _ => rfl

theorem IsPunctual.bind {job : Job τ α} {next : α → Job τ β} (h : job.IsPunctual)
    (hnext : ∀ a, (next a).IsPunctual) : (job.bind next).IsPunctual :=
  isPunctual_iff.2 fun late =>
    (isPunctual_iff.1 h late).bind fun a => isPunctual_iff.1 (hnext a) late

theorem IsPunctual.mapError {job : Job τ α} (h : job.IsPunctual) (f : MediaError → MediaError) :
    (job.mapError f).IsPunctual :=
  isPunctual_iff.2 fun late => (isPunctual_iff.1 h late).mapError f

/-! ### Under the token -/

theorem watch_of_stopped (job : Job τ α) {w : World τ} (h : w.stopped = true) :
    job.watch w = (.failed .cancelled, w) := by
  simp [watch, h]

theorem watch_of_waiting {job : Job τ α} {w w' : World τ} (hw : w.stopped = false)
    (h : job w = (.waiting, w')) : job.watch w = (.failed .cancelled, w') := by
  simp only [watch, hw, h]
  rfl

theorem watch_of_ne {job : Job τ α} {w w' : World τ} {o : Outcome α} (hw : w.stopped = false)
    (h : job w = (o, w')) (ho : o ≠ .waiting) : job.watch w = (o, w') := by
  rw [watch, if_neg (by simp [hw]), h]
  cases o with
  | waiting => exact absurd rfl ho
  | _ => rfl

/-- A watched wait passes if the token has not fired at its end. -/
theorem watch_pause_of_not_stopped {w : World τ} {time : Nanos}
    (h : ({ w with now := w.now + time } : World τ).stopped = false) :
    watch (pause time) w = (.done (), { w with now := w.now + time }) := by
  obtain ⟨hfired, hdeadline⟩ := World.stopped_eq_false_iff.1 h
  have hw : w.stopped = false := World.stopped_eq_false_iff.2
    ⟨hfired, fun c hc => Nat.lt_of_le_of_lt (Nat.le_add_right _ _) (hdeadline c hc)⟩
  apply watch_of_ne hw
  · rw [pause, World.sleep_of_lt hw hdeadline]
  · intro heq
    cases heq

/-- A watched wait is given up if the token has fired at its end, and lasts until it fires. -/
theorem watch_pause_of_stopped {w : World τ} {time : Nanos}
    (h : ({ w with now := w.now + time } : World τ).stopped = true) :
    ∃ now ≤ w.now + time, watch (pause time) w = (.failed .cancelled, { w with now := now }) := by
  cases hw : w.stopped with
  | true => exact ⟨w.now, Nat.le_add_right _ _, watch_of_stopped _ hw⟩
  | false =>
    obtain ⟨hfired, -⟩ := World.stopped_eq_false_iff.1 hw
    obtain ⟨c, hc, hle⟩ : ∃ c ∈ w.deadline, c ≤ w.now + time := by
      by_contra hnone
      have hlater : ∀ c ∈ w.deadline, w.now + time < c := by
        intro c hc
        exact Nat.lt_of_not_le fun hle => hnone ⟨c, hc, hle⟩
      have hgoes : ({ w with now := w.now + time } : World τ).stopped = false :=
        World.stopped_eq_false_iff.2 ⟨hfired, hlater⟩
      exact absurd (hgoes.symm.trans h) (by decide)
    refine ⟨c, hle, watch_of_waiting hw ?_⟩
    rw [pause, World.sleep_of_le hw hc hle]

theorem retry_of_stopped (b : Backoff) (attempt : Job τ α) {w : World τ} (h : w.stopped = true) :
    retry b attempt w = (.failed .cancelled, w) := watch_of_stopped _ h

/-- A watched job that begins leaves the world as the job does. -/
theorem snd_watch (job : Job τ α) {w : World τ} (h : w.stopped = false) :
    (job.watch w).2 = (job w).2 := by
  rcases hjob : job w with ⟨o, w₁⟩
  simp only [watch, h, hjob]
  cases o <;> rfl

theorem IsTimely.watch {job : Job τ α} (h : job.IsTimely) : job.watch.IsPunctual := by
  intro w
  cases hw : w.stopped with
  | true => rw [watch_of_stopped job hw]
  | false => rw [snd_watch job hw, h w hw]

/-- A retried job that begins leaves the world as its tries do. -/
theorem retried_of_retry (b : Backoff) (attempt : Job τ α) {w : World τ} (h : w.stopped = false) :
    ∃ o, Retried attempt w o (retry b attempt w).2 :=
  ⟨_, by rw [retry, snd_watch _ h]; exact retried_of_attempts rfl⟩

/-- Each try begins before the token has fired, since the wait before it ends with the token. -/
theorem IsTimely.retried {attempt : Job τ α} (h : attempt.IsTimely) {w w' : World τ} {o : Outcome α}
    (hr : Retried attempt w o w') (hw : w.stopped = false) : w'.late = w.late := by
  induction hr with
  | last hlast => simpa [hlast] using h _ hw
  | waits hfailed hsleep =>
    have hlate := h _ hw
    rw [hfailed] at hlate
    exact (World.late_of_sleep hsleep).trans hlate
  | again hfailed hsleep _ ih =>
    have hlate := h _ hw
    rw [hfailed] at hlate
    exact (ih (World.stopped_of_sleep hsleep)).trans ((World.late_of_sleep hsleep).trans hlate)

theorem IsTimely.retry {attempt : Job τ α} (h : attempt.IsTimely) (b : Backoff) :
    (Job.retry b attempt).IsPunctual := by
  intro w
  cases hw : w.stopped with
  | true => rw [retry_of_stopped b attempt hw]
  | false =>
    obtain ⟨o, hr⟩ := retried_of_retry b attempt hw
    exact h.retried hr hw

theorem late_call (what : Call) (ask : τ → Answer α × τ) (handed : α → Option Attachment)
    (w : World τ) : (call what ask handed w).2.late = w.lateWith (.call what) := by
  rcases hask : ask w.messenger with ⟨answer, messenger⟩
  simp only [call, hask]
  cases answer <;> dsimp only <;> split_ifs <;> rfl

theorem exists_record_call (what : Call) (ask : τ → Answer α × τ) (handed : α → Option Attachment)
    (w : World τ) :
    ∃ r : CallRecord, r.call = what ∧ (call what ask handed w).2.calls = w.calls ++ [r] := by
  rcases hask : ask w.messenger with ⟨answer, messenger⟩
  refine ⟨⟨what, answer.verdict, answer.fires, answer.value?.bind handed⟩, rfl, ?_⟩
  simp only [call, hask]
  cases answer <;> dsimp only <;> split_ifs <;> rfl

/-- After an accepted call that began before, the token has fired just when it fired in the call. -/
theorem call_done {what : Call} {ask : τ → Answer α × τ} {handed : α → Option Attachment}
    {w w' : World τ} {a : α} (h : call what ask handed w = (.done a, w'))
    (hw : w.stopped = false) :
    w'.calls = w.calls ++ [⟨what, .accepted, w'.stopped, handed a⟩] := by
  rcases hask : ask w.messenger with ⟨answer, messenger⟩
  simp only [call, hask] at h
  cases answer with
  | accepted b fires =>
    obtain ⟨⟨⟩, hw'⟩ := Prod.mk.inj h
    cases fires with
    | true =>
      obtain rfl : (w.answered messenger ⟨what, .accepted, true, handed a⟩).fire = w' := hw'
      rw [World.stopped_fire]
      rfl
    | false =>
      obtain rfl : w.answered messenger ⟨what, .accepted, false, handed a⟩ = w' := hw'
      rw [World.stopped_answered, hw]
      rfl
  | _ => cases (Prod.mk.inj h).1

theorem stopped_call (what : Call) (ask : τ → Answer α × τ) (handed : α → Option Attachment)
    {w : World τ} (h : w.stopped = true) : (call what ask handed w).2.stopped = true := by
  by_contra hs
  rw [Bool.not_eq_true] at hs
  rw [stopped_of_call rfl hs] at h
  cases h

/-- A call that is made before the token has fired may fire it, and is not late itself. -/
theorem isTimely_call (what : Call) (ask : τ → Answer α × τ) (handed : α → Option Attachment) :
    (call what ask handed).IsTimely := fun w hw =>
  (late_call what ask handed w).trans (World.lateWith_of_not_stopped hw _)

/-! ### Prompt jobs -/

theorem isPrompt_pure (a : α) : (pure a : Job τ α).IsPrompt where
  timely _ _ := rfl
  inTime w b w' hw h := by
    obtain ⟨-, rfl⟩ := Prod.mk.inj h
    exact hw

theorem isPrompt_fail (e : MediaError) : (fail e : Job τ α).IsPrompt where
  timely _ _ := rfl
  inTime _ _ _ _ h := by cases (Prod.mk.inj h).1

theorem isPrompt_ofExcept (r : Except MediaError α) : (ofExcept r : Job τ α).IsPrompt := by
  cases r with
  | ok a => exact isPrompt_pure a
  | error e => exact isPrompt_fail e

theorem isPrompt_pause (time : Nanos) : (pause time : Job τ Unit).IsPrompt where
  timely w _ := by
    rcases hsleep : w.sleep time with ⟨passed, w₁⟩
    simp only [pause, hsleep]
    cases passed <;> exact World.late_of_sleep hsleep
  inTime w a w' _ h := by
    rcases hsleep : w.sleep time with ⟨passed, w₁⟩
    simp only [pause, hsleep] at h
    cases passed with
    | true =>
      obtain ⟨-, rfl⟩ := Prod.mk.inj h
      exact World.stopped_of_sleep hsleep
    | false => cases (Prod.mk.inj h).1

theorem isPrompt_rest (time : Nanos) : (rest time : Job τ Unit).IsPrompt where
  timely w := (isPrompt_pause _).timely w
  inTime w := (isPrompt_pause _).inTime w

theorem IsPrompt.bind {job : Job τ α} {next : α → Job τ β} (h : job.IsPrompt)
    (hnext : ∀ a, (next a).IsPrompt) : (job.bind next).IsPrompt where
  timely w hw := by
    have hlate := h.timely w hw
    rcases hjob : job w with ⟨o, w₁⟩
    rw [hjob] at hlate
    simp only [Job.bind, hjob]
    cases o with
    | done a => exact ((hnext a).timely w₁ (h.inTime w a w₁ hw hjob)).trans hlate
    | _ => exact hlate
  inTime w b w' hw hb := by
    rcases hjob : job w with ⟨o, w₁⟩
    simp only [Job.bind, hjob] at hb
    cases o with
    | done a => exact (hnext a).inTime w₁ b w' (h.inTime w a w₁ hw hjob) hb
    | _ => cases (Prod.mk.inj hb).1

theorem IsPrompt.mapError {job : Job τ α} (h : job.IsPrompt) (f : MediaError → MediaError) :
    (job.mapError f).IsPrompt where
  timely w hw := by
    have hlate := h.timely w hw
    rcases hjob : job w with ⟨o, w₁⟩
    rw [hjob] at hlate
    simp only [Job.mapError, hjob]
    cases o <;> exact hlate
  inTime w a w' hw ha := by
    rcases hjob : job w with ⟨o, w₁⟩
    simp only [Job.mapError, hjob] at ha
    cases o with
    | done b => exact h.inTime w a w' hw (hjob.trans ha)
    | _ => cases (Prod.mk.inj ha).1

theorem IsPrompt.watch {job : Job τ α} (h : job.IsPrompt) : job.watch.IsPrompt where
  timely w _ := h.timely.watch w
  inTime w a w' hw ha := by
    rcases hjob : job w with ⟨o, w₁⟩
    simp only [Job.watch, hw, hjob] at ha
    cases o with
    | done b => exact h.inTime w a w' hw (hjob.trans ha)
    | _ => cases (Prod.mk.inj ha).1

theorem IsPrompt.retried {attempt : Job τ α} (h : attempt.IsPrompt) {w w' : World τ} {a : α}
    (hr : Retried attempt w (.done a) w') (hw : w.stopped = false) : w'.stopped = false := by
  generalize ho : Outcome.done a = o at hr
  induction hr with
  | last hlast =>
    subst ho
    exact h.inTime _ a _ hw hlast
  | waits => cases ho
  | again _ hsleep _ ih => exact ih (World.stopped_of_sleep hsleep) ho

theorem IsPrompt.retry {attempt : Job τ α} (h : attempt.IsPrompt) (b : Backoff) :
    (Job.retry b attempt).IsPrompt :=
  IsPrompt.watch
    { timely := fun _ hw => h.timely.retried (retried_of_attempts rfl) hw
      inTime := fun _ _ _ hw ha => h.retried (retried_of_attempts ha) hw }

end Job
end MediaRelay
