import MediaRelay.Outbox
import MediaRelay.Proofs.Retry
import MediaRelay.Proofs.Text.Chunk
/-! A text on its way through the outbox: piece after piece, each tried until it is taken. Which
tries were made, and what the platform answered to each, is kept in one list, from which all that
was delivered is read. -/

namespace MediaRelay

variable {τ σ α : Type}

inductive Trace (step : α → σ → σ → Prop) : List α → σ → σ → Prop
  | nil (s : σ) : Trace step [] s s
  | cons {a : α} {as : List α} {s s₁ s' : σ} (h : step a s s₁) (rest : Trace step as s₁ s') :
    Trace step (a :: as) s s'

theorem Trace.append {step : α → σ → σ → Prop} {as bs : List α} {s s₁ s' : σ}
    (h : Trace step as s s₁) (h' : Trace step bs s₁ s') : Trace step (as ++ bs) s s' := by
  induction h with
  | nil => exact h'
  | cons hstep _ ih => exact .cons hstep (ih h')

theorem Trace.single {step : α → σ → σ → Prop} {a : α} {s s' : σ} (h : step a s s') :
    Trace step [a] s s' :=
  .cons h (.nil s')

structure TextTry where
  text : String
  refusal : Option TransportError

namespace TextTry

def answer (t : TextTry) : Answer Unit :=
  match t.refusal with
  | none => .accepted () false
  | some e => .refused e false

def outcome (t : TextTry) : Outcome Unit :=
  match t.refusal with
  | none => .done ()
  | some e => .failed (.transport e)

def record (thread : Thread) (t : TextTry) : CallRecord :=
  ⟨.text thread t.text, t.answer.verdict, false, none⟩

def refused (text : String) (causes : List TransportError) : List TextTry :=
  causes.map fun e => ⟨text, some e⟩

def delivered (tries : List TextTry) : List String :=
  (tries.filter (·.refusal.isNone)).map (·.text)

@[simp] theorem delivered_nil : delivered [] = [] := rfl

@[simp] theorem delivered_append (tries tries' : List TextTry) :
    delivered (tries ++ tries') = delivered tries ++ delivered tries' := by
  simp [delivered]

@[simp] theorem delivered_refused (text : String) (causes : List TransportError) :
    delivered (refused text causes) = [] := by
  simp [delivered, refused]

@[simp] theorem delivered_taken (text : String) (tries : List TextTry) :
    delivered (⟨text, none⟩ :: tries) = text :: delivered tries := rfl

@[simp] theorem delivered_gaveUp (text : String) (e : TransportError) :
    delivered [⟨text, some e⟩] = [] := rfl

theorem text_of_mem_refused {text : String} {causes : List TransportError} {t : TextTry}
    (h : t ∈ refused text causes) : t.text = text := by
  obtain ⟨e, -, rfl⟩ := List.mem_map.1 h
  rfl

variable [Transport τ]

def Answers (thread : Thread) (t : TextTry) (s s' : τ) : Prop :=
  Transport.sendText thread t.text s = (t.answer, s')

end TextTry

open TextTry (refused delivered)

/-- The tries of a list of pieces, so many for each: a piece is refused until it is taken, and the
next one follows; or it is refused for the last time, and none follows. -/
inductive Told (attempts : ℕ) : List String → List TextTry → Outcome Unit → Prop
  | all : Told attempts [] [] (.done ())
  | taken {piece : String} {rest : List String} {causes : List TransportError}
      {tries : List TextTry} {o : Outcome Unit} (h : causes.length < attempts)
      (later : Told attempts rest tries o) :
      Told attempts (piece :: rest) (refused piece causes ++ ⟨piece, none⟩ :: tries) o
  | gaveUp {piece : String} {rest : List String} {causes : List TransportError}
      {e : TransportError} (h : causes.length + 1 = attempts) :
      Told attempts (piece :: rest) (refused piece causes ++ [⟨piece, some e⟩])
        (.failed (.transport e))

/-- The first piece that was not delivered was refused as often as it may be, the last time for the
cause that is the failure of all, and no piece after it was tried. -/
def GaveUp (attempts : ℕ) (pieces : List String) (tries : List TextTry) (o : Outcome Unit) :
    Prop :=
  ∃ (earlier : List TextTry) (piece : String) (later : List String)
    (causes : List TransportError) (e : TransportError),
    pieces = delivered tries ++ piece :: later ∧
    tries = earlier ++ refused piece causes ++ [⟨piece, some e⟩] ∧
    (∀ t ∈ earlier, t.text ∈ delivered tries) ∧ causes.length + 1 = attempts ∧
    o = .failed (.transport e)

/-- What was delivered of a list of pieces: the first of them, each once and in order; all, if the
send succeeds, and else all before the piece at which it gave up. -/
structure GoesOut (attempts : ℕ) (pieces : List String) (tries : List TextTry)
    (o : Outcome Unit) : Prop where
  told : Told attempts pieces tries o
  inOrder : delivered tries <+: pieces
  done_iff : o = .done () ↔ delivered tries = pieces
  gaveUp : o ≠ .done () → GaveUp attempts pieces tries o

namespace Told

variable {attempts : ℕ} {pieces : List String} {tries : List TextTry} {o : Outcome Unit}

theorem inOrder (h : Told attempts pieces tries o) : delivered tries <+: pieces := by
  induction h with
  | all => exact List.nil_prefix
  | taken _ _ ih => simpa using ih
  | gaveUp _ => simp

theorem done_iff (h : Told attempts pieces tries o) : o = .done () ↔ delivered tries = pieces := by
  induction h with
  | all => simp
  | taken _ _ ih => simpa using ih
  | gaveUp _ => simp

theorem gaveUp_of_ne (h : Told attempts pieces tries o) (ho : o ≠ .done ()) :
    GaveUp attempts pieces tries o := by
  induction h with
  | all => exact absurd rfl ho
  | @taken piece rest causes tries o h later ih =>
    obtain ⟨earlier, piece', later', causes', e, hpieces, htries, hearlier, hlength, ho⟩ := ih ho
    refine ⟨refused piece causes ++ ⟨piece, none⟩ :: earlier, piece', later', causes', e, ?_, ?_,
      ?_, hlength, ho⟩
    · simp [hpieces]
    · simp [htries]
    · intro t ht
      have hnew : t.text = piece ∨ t ∈ earlier := by
        rcases List.mem_append.1 ht with ht | ht
        · exact .inl (TextTry.text_of_mem_refused ht)
        · rcases List.mem_cons.1 ht with rfl | ht
          · exact .inl rfl
          · exact .inr ht
      rw [TextTry.delivered_append, TextTry.delivered_refused, List.nil_append,
        TextTry.delivered_taken]
      rcases hnew with rfl | ht
      · exact List.mem_cons_self
      · exact List.mem_cons_of_mem _ (hearlier t ht)
  | @gaveUp piece rest causes e h =>
    exact ⟨[], piece, rest, causes, e, by simp, by simp, by simp, h, rfl⟩

theorem goesOut (h : Told attempts pieces tries o) : GoesOut attempts pieces tries o :=
  ⟨h, h.inOrder, h.done_iff, h.gaveUp_of_ne⟩

theorem text_mem (h : Told attempts pieces tries o) {t : TextTry} (ht : t ∈ tries) :
    t.text ∈ pieces := by
  induction h with
  | all => cases ht
  | taken _ _ ih =>
    rcases List.mem_append.1 ht with ht | ht
    · rw [TextTry.text_of_mem_refused ht]
      exact List.mem_cons_self
    · rcases List.mem_cons.1 ht with rfl | ht
      · exact List.mem_cons_self
      · exact List.mem_cons_of_mem _ (ih ht)
  | gaveUp _ =>
    rcases List.mem_append.1 ht with ht | ht
    · rw [TextTry.text_of_mem_refused ht]
      exact List.mem_cons_self
    · rw [List.mem_singleton.1 ht]
      exact List.mem_cons_self

end Told

namespace Outbox

variable [Transport τ] {thread : Thread}

/-- A platform that takes every text or refuses it, and does not fire the token. -/
def TakesOrRefuses (τ : Type) [Transport τ] (thread : Thread) : Prop :=
  ∀ (text : String) (s : τ), ∃ t : TextTry, t.text = text ∧ ∃ s', t.Answers thread s s'

structure Spoken (thread : Thread) (tries : List TextTry) (w w' : World τ) : Prop where
  trace : Trace (TextTry.Answers thread) tries w.messenger w'.messenger
  calls : w'.calls = w.calls ++ tries.map (·.record thread)
  stopped : w'.stopped = w.stopped

theorem Spoken.refl (w : World τ) : Spoken thread [] w w := ⟨.nil _, by simp, rfl⟩

theorem Spoken.append {tries tries' : List TextTry} {w w₁ w' : World τ}
    (h : Spoken thread tries w w₁) (h' : Spoken thread tries' w₁ w') :
    Spoken thread (tries ++ tries') w w' where
  trace := h.trace.append h'.trace
  calls := by rw [h'.calls, h.calls, List.map_append, List.append_assoc]
  stopped := h'.stopped.trans h.stopped

/-- One try is one call. -/
theorem sendTextOnce_of_answers {t : TextTry} {w : World τ} {s' : τ}
    (h : t.Answers thread w.messenger s') :
    sendTextOnce thread t.text w = (t.outcome, w.answered s' (t.record thread)) := by
  obtain ⟨text, refusal⟩ := t
  cases refusal with
  | none => exact Job.call_of_accepted _ _ h
  | some e => exact Job.call_of_refused _ _ h

theorem sendTextOnce_spoken (h : TakesOrRefuses τ thread) (text : String) (w : World τ) :
    ∃ t : TextTry, t.text = text ∧ ∃ w', sendTextOnce thread text w = (t.outcome, w') ∧
      Spoken thread [t] w w' := by
  obtain ⟨t, rfl, s', ht⟩ := h text w.messenger
  exact ⟨t, rfl, _, sendTextOnce_of_answers ht, .single ht, rfl, rfl⟩

/-- A piece is refused some times and then taken, or is refused each time. -/
theorem tries_piece (h : TakesOrRefuses τ thread) (piece : String) (n : ℕ) {w : World τ}
    (hw : w.stopped = false) :
    ∃ (causes : List TransportError) (w' : World τ),
      (causes.length ≤ n ∧ Job.Tries (sendTextOnce thread piece) n w (.done ()) w' ∧
        Spoken thread (refused piece causes ++ [⟨piece, none⟩]) w w') ∨
      ∃ e, causes.length = n ∧
        Job.Tries (sendTextOnce thread piece) n w (.failed (.transport e)) w' ∧
        Spoken thread (refused piece causes ++ [⟨piece, some e⟩]) w w' := by
  induction n generalizing w with
  | zero =>
    obtain ⟨⟨_, refusal⟩, rfl, w', hcall, hspoken⟩ := sendTextOnce_spoken h piece w
    cases refusal with
    | none => exact ⟨[], w', .inl ⟨Nat.le_refl _, .last hcall fun _ _ _ => rfl, hspoken⟩⟩
    | some e => exact ⟨[], w', .inr ⟨e, rfl, .last hcall fun _ _ _ => rfl, hspoken⟩⟩
  | succ n ih =>
    obtain ⟨⟨_, refusal⟩, rfl, w₁, hcall, hspoken⟩ := sendTextOnce_spoken h piece w
    cases refusal with
    | none => exact ⟨[], w₁, .inl ⟨Nat.zero_le _, .last hcall (fun _ he _ => by cases he), hspoken⟩⟩
    | some e =>
      have hw₁ : w₁.stopped = false := hspoken.stopped.trans hw
      obtain ⟨causes, w', hend⟩ := ih hw₁
      refine ⟨e :: causes, w', hend.imp ?_ ?_⟩
      · rintro ⟨hlength, htries, hrest⟩
        exact ⟨Nat.succ_le_succ hlength, .again hcall hw₁ rfl htries, hspoken.append hrest⟩
      · rintro ⟨e', hlength, htries, hrest⟩
        exact ⟨e', congrArg (· + 1) hlength, .again hcall hw₁ rfl htries, hspoken.append hrest⟩

/-- Pieces go out one after the other, up to the first that is refused each time. -/
theorem sendPieces_told (h : TakesOrRefuses τ thread) (o : Outbox) (pieces : List String)
    {w : World τ} (hw : w.stopped = false) :
    ∃ tries, Spoken thread tries w (o.sendPieces thread pieces w).2 ∧
      Told (max o.attempts 1) pieces tries (o.sendPieces thread pieces w).1 := by
  induction pieces generalizing w with
  | nil => exact ⟨[], .refl w, .all⟩
  | cons piece rest ih =>
    have hattempts : max o.attempts 1 - 1 + 1 = max o.attempts 1 := by omega
    obtain ⟨causes, w₁, ⟨hlength, htries, hspoken⟩ | ⟨e, hlength, htries, hspoken⟩⟩ :=
      tries_piece h piece (max o.attempts 1 - 1) hw
    · have hrun : Job.retry o.backoff (sendTextOnce thread piece) w = (.done (), w₁) :=
        Job.retry_of_tries hw htries (by simp)
      obtain ⟨tries, hrest, htold⟩ := ih (hspoken.stopped.trans hw)
      have hpieces : o.sendPieces thread (piece :: rest) w = o.sendPieces thread rest w₁ := by
        simp only [sendPieces, Job.bind, hrun]
      rw [hpieces]
      refine ⟨_, hspoken.append hrest, ?_⟩
      rw [List.append_assoc, List.singleton_append]
      exact .taken (by omega) htold
    · have hrun : Job.retry o.backoff (sendTextOnce thread piece) w =
          (.failed (.transport e), w₁) :=
        Job.retry_of_tries hw htries (by simp)
      have hpieces : o.sendPieces thread (piece :: rest) w = (.failed (.transport e), w₁) := by
        simp only [sendPieces, Job.bind, hrun]
      rw [hpieces]
      exact ⟨_, hspoken, .gaveUp (by omega)⟩

/-- A text that goes out in one piece, and whose first try is the last one. -/
theorem sendMessage_of_answers (o : Outbox) {t : TextTry} {w : World τ} {s' : τ}
    (hpieces : textPieces (Transport.textLimit w.messenger) t.text = [t.text])
    (hw : w.stopped = false)
    (hlast : t.refusal = none ∨ o.attempts ≤ 1) (h : t.Answers thread w.messenger s') :
    o.sendMessage thread t.text w = (t.outcome, w.answered s' (t.record thread)) := by
  have htries : Job.Tries (sendTextOnce thread t.text) (max o.attempts 1 - 1) w t.outcome
      (w.answered s' (t.record thread)) := by
    refine .last (sendTextOnce_of_answers h) fun e ho _ => ?_
    rcases hlast with htaken | hattempts
    · rw [TextTry.outcome, htaken] at ho
      cases ho
    · omega
  have hne : t.outcome ≠ .waiting := by
    unfold TextTry.outcome
    split <;> simp
  have hrun : Job.retry o.backoff (sendTextOnce thread t.text) w =
      (t.outcome, w.answered s' (t.record thread)) := Job.retry_of_tries hw htries hne
  simp only [sendMessage, hpieces, sendPieces, Job.bind, hrun]
  cases t.outcome <;> rfl

theorem textPieces_ne_nil (limit : Option ℕ) (text : String) : textPieces limit text ≠ [] := by
  cases limit with
  | none => exact List.cons_ne_nil _ _
  | some limit => exact mt List.map_eq_nil_iff.1 (Text.split_ne_nil limit text.toList)

theorem join_textPieces (limit : Option ℕ) (text : String) :
    String.join (textPieces limit text) = text := by
  cases limit with
  | none => simp [textPieces, String.join]
  | some limit => exact join_splitText text limit

end Outbox

end MediaRelay
