import Mathlib.Data.List.Basic
import MediaRelay.Retry
/-! How time passes in a world, and properties of the world that a job keeps, from the jobs it is
made of. -/

namespace MediaRelay

variable {τ α β : Type}

def Outcome.map (f : α → β) : Outcome α → Outcome β
  | .done a => .done (f a)
  | .failed e => .failed e
  | .waiting => .waiting
  | .crashed => .crashed

namespace World

def IsFree (w : World τ) : Prop := w.firedAt = none ∧ w.deadline = none

theorem IsFree.stopped {w : World τ} (h : w.IsFree) : w.stopped = false := by
  simp [World.stopped, h.1, h.2]

theorem stopped_eq_false_iff {w : World τ} :
    w.stopped = false ↔ w.firedAt = none ∧ ∀ c ∈ w.deadline, w.now < c := by
  cases hdeadline : w.deadline <;> simp [stopped, hdeadline]

theorem sleep_of_lt {w : World τ} {time : Nanos} (h : w.stopped = false)
    (hlt : ∀ c ∈ w.deadline, w.now + time < c) :
    w.sleep time = (true, { w with now := w.now + time }) := by
  rw [sleep, if_neg (by simp [h])]
  cases hdeadline : w.deadline with
  | none => rfl
  | some c => exact if_neg (Nat.not_le.2 (hlt c hdeadline))

theorem sleep_of_le {w : World τ} {time c : Nanos} (h : w.stopped = false)
    (hc : w.deadline = some c) (hle : c ≤ w.now + time) :
    w.sleep time = (false, { w with now := c }) := by
  rw [sleep, if_neg (by simp [h]), hc]
  exact if_pos hle

theorem IsFree.sleep {w : World τ} (h : w.IsFree) (time : Nanos) :
    w.sleep time = (true, { w with now := w.now + time }) := by
  refine sleep_of_lt h.stopped fun c hc => ?_
  rw [h.2] at hc
  cases hc

/-- The clock does not go back. -/
theorem now_le_sleep (w : World τ) (time : Nanos) : w.now ≤ (w.sleep time).2.now := by
  cases hw : w.stopped with
  | true =>
    have hstays : w.sleep time = (false, w) := if_pos hw
    exact Nat.le_of_eq (congrArg (·.2.now) hstays).symm
  | false =>
    cases hdeadline : w.deadline with
    | none =>
      rw [sleep_of_lt hw (by simp [hdeadline])]
      exact Nat.le_add_right _ _
    | some c =>
      rcases Nat.lt_or_ge (w.now + time) c with hlt | hle
      · rw [sleep_of_lt hw (by simpa [hdeadline] using hlt)]
        exact Nat.le_add_right _ _
      · rw [sleep_of_le hw hdeadline hle]
        exact Nat.le_of_lt ((stopped_eq_false_iff.1 hw).2 c hdeadline)

def Timeless (P : World τ → Prop) : Prop := ∀ w time, P w → P { w with now := time }

theorem Timeless.sleep {P : World τ → Prop} (hP : Timeless P) {w : World τ} (h : P w)
    (time : Nanos) :
    P (w.sleep time).2 := by
  unfold World.sleep
  split_ifs
  · exact h
  · split
    · split_ifs
      · exact hP w _ h
      · exact hP w _ h
    · exact hP w _ h

theorem Timeless.of_sleep {P : World τ → Prop} (hP : Timeless P) {w w' : World τ} {time : Nanos}
    {passed : Bool} (h : P w) (hsleep : w.sleep time = (passed, w')) : P w' := by
  have hslept := hP.sleep h time
  rwa [hsleep] at hslept

end World

namespace Job

/-- A job that keeps a property of the world, however it ends. -/
def Preserves (P : World τ → Prop) (job : Job τ α) : Prop := ∀ w, P w → P (job w).2

theorem bind_pure (job : Job τ α) (f : α → β) (w : World τ) :
    (job.bind fun a => pure (f a)) w = ((job w).1.map f, (job w).2) := by
  rcases hjob : job w with ⟨o, w₁⟩
  simp only [bind, hjob]
  cases o <;> rfl

theorem bind_of_done {job : Job τ α} {next : α → Job τ β} {w : World τ} {a : α}
    (h : (job w).1 = .done a) : job.bind next w = next a (job w).2 := by
  rcases hjob : job w with ⟨o, w₁⟩
  rw [hjob] at h
  obtain rfl : o = .done a := h
  simp only [bind, hjob]

theorem bind_of_eq_done {job : Job τ α} {next : α → Job τ β} {w w' : World τ} {a : α}
    (h : job w = (.done a, w')) : job.bind next w = next a w' := by
  rw [bind_of_done (congrArg Prod.fst h), h]

theorem bind_of_failed {job : Job τ α} {next : α → Job τ β} {w w' : World τ} {e : MediaError}
    (h : job w = (.failed e, w')) : job.bind next w = (.failed e, w') := by
  simp only [bind, h]

/-- A job that is done was done with its first part. -/
theorem of_bind_eq_done {job : Job τ α} {next : α → Job τ β} {w w' : World τ} {b : β}
    (h : job.bind next w = (.done b, w')) :
    ∃ a w₁, job w = (.done a, w₁) ∧ next a w₁ = (.done b, w') := by
  rcases hjob : job w with ⟨o, w₁⟩
  simp only [bind, hjob] at h
  cases o with
  | done a => exact ⟨a, w₁, rfl, h⟩
  | _ => cases (Prod.mk.inj h).1

theorem of_watch_eq_done {job : Job τ α} {w w' : World τ} {a : α}
    (h : job.watch w = (.done a, w')) : w.stopped = false ∧ job w = (.done a, w') := by
  rw [watch] at h
  split_ifs at h with hw
  · cases (Prod.mk.inj h).1
  · rcases hjob : job w with ⟨o, w₁⟩
    simp only [hjob] at h
    cases o with
    | waiting => cases (Prod.mk.inj h).1
    | _ => exact ⟨by simpa using hw, h⟩

theorem of_ofExcept_eq_done {r : Except MediaError α} {w w' : World τ} {a : α}
    (h : ofExcept r w = (.done a, w')) : r = .ok a := by
  cases r with
  | ok b =>
    cases h
    rfl
  | error e => cases (Prod.mk.inj h).1

theorem of_mapError_eq_done {job : Job τ α} {f : MediaError → MediaError} {w w' : World τ} {a : α}
    (h : job.mapError f w = (.done a, w')) : job w = (.done a, w') := by
  rcases hjob : job w with ⟨o, w₁⟩
  simp only [mapError, hjob] at h
  cases o with
  | failed e => cases (Prod.mk.inj h).1
  | _ => exact h

variable {P : World τ → Prop}

theorem preserves_pure (a : α) : (pure a : Job τ α).Preserves P := fun _ h => h

theorem preserves_fail (e : MediaError) : (fail e : Job τ α).Preserves P := fun _ h => h

theorem Preserves.bind {job : Job τ α} {next : α → Job τ β} (h : job.Preserves P)
    (hnext : ∀ a, (next a).Preserves P) : (job.bind next).Preserves P := by
  intro w hw
  have hj := h w hw
  rcases hjob : job w with ⟨o, w₁⟩
  rw [hjob] at hj
  simp only [Job.bind, hjob]
  cases o with
  | done a => exact hnext a w₁ hj
  | _ => exact hj

theorem Preserves.mapError {job : Job τ α} (h : job.Preserves P) (f : MediaError → MediaError) :
    (job.mapError f).Preserves P := by
  intro w hw
  have hj := h w hw
  rcases hjob : job w with ⟨o, w₁⟩
  rw [hjob] at hj
  simp only [Job.mapError, hjob]
  cases o <;> exact hj

theorem Preserves.watch {job : Job τ α} (h : job.Preserves P) : job.watch.Preserves P := by
  intro w hw
  have hj := h w hw
  rcases hjob : job w with ⟨o, w₁⟩
  rw [hjob] at hj
  simp only [Job.watch, hjob]
  split_ifs
  · exact hw
  · cases o <;> exact hj

inductive Retried (attempt : Job τ α) : World τ → Outcome α → World τ → Prop
  | last {w w' : World τ} {o : Outcome α} (h : attempt w = (o, w')) : Retried attempt w o w'
  | waits {w w₁ w' : World τ} {e : MediaError} {time : Nanos} (h : attempt w = (.failed e, w₁))
      (hsleep : w₁.sleep time = (false, w')) : Retried attempt w .waiting w'
  | again {w w₁ w₂ w' : World τ} {e : MediaError} {time : Nanos} {o : Outcome α}
      (h : attempt w = (.failed e, w₁)) (hsleep : w₁.sleep time = (true, w₂))
      (rest : Retried attempt w₂ o w') : Retried attempt w o w'

theorem retried_of_attempts {delay : ℕ → Nanos} {attempt : Job τ α} {n k : ℕ} {w w' : World τ}
    {o : Outcome α} (h : attempts delay attempt n k w = (o, w')) : Retried attempt w o w' := by
  induction n generalizing k w with
  | zero =>
    rw [attempts.eq_def] at h
    rcases hjob : attempt w with ⟨o₁, w₁⟩
    simp only [hjob, ite_self] at h
    refine .last (hjob.trans ?_)
    cases o₁ <;> exact h
  | succ n ih =>
    rw [attempts.eq_def] at h
    rcases hjob : attempt w with ⟨o₁, w₁⟩
    simp only [hjob] at h
    cases o₁ with
    | failed e =>
      rcases hsleep : w₁.sleep (delay k) with ⟨passed, w₂⟩
      simp only [hsleep] at h
      split_ifs at h
      · cases passed with
        | true => exact .again hjob hsleep (ih h)
        | false =>
          obtain ⟨rfl, rfl⟩ := Prod.mk.inj h
          exact .waits hjob hsleep
      · exact .last (hjob.trans h)
    | _ => exact .last (hjob.trans h)

/-- Tries that are done were done with one of them. -/
theorem Retried.exists_done {attempt : Job τ α} {w w' : World τ} {a : α}
    (h : Retried attempt w (.done a) w') : ∃ w₁ w₂, attempt w₁ = (.done a, w₂) := by
  generalize ho : Outcome.done a = o at h
  induction h with
  | last hlast =>
    subst ho
    exact ⟨_, _, hlast⟩
  | waits _ _ => cases ho
  | again _ _ _ ih => exact ih ho

theorem exists_done_of_retry {b : Backoff} {attempt : Job τ α} {w w' : World τ} {a : α}
    (h : Job.retry b attempt w = (.done a, w')) : ∃ w₁ w₂, attempt w₁ = (.done a, w₂) :=
  (retried_of_attempts (of_watch_eq_done h).2).exists_done

theorem Preserves.retried {attempt : Job τ α} (h : attempt.Preserves P) (hP : World.Timeless P)
    {w w' : World τ} {o : Outcome α} (hr : Retried attempt w o w') (hw : P w) : P w' := by
  induction hr with
  | last hlast => simpa [hlast] using h _ hw
  | waits hfailed hsleep => exact hP.of_sleep (by simpa [hfailed] using h _ hw) hsleep
  | again hfailed hsleep _ ih => exact ih (hP.of_sleep (by simpa [hfailed] using h _ hw) hsleep)

theorem Preserves.retry {attempt : Job τ α} (h : attempt.Preserves P) (hP : World.Timeless P)
    (b : Backoff) :
    (Job.retry b attempt).Preserves P :=
  Preserves.watch fun _ hw => h.retried hP (retried_of_attempts rfl) hw

end Job
end MediaRelay
