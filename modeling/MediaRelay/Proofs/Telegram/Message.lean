import MediaRelay.Proofs.Outbox.Message
import MediaRelay.Telegram.Session
/-! A text on its way to a thread over Telegram. A piece of the outbox fits into one message, so the
platform cuts it no further, and each try of a piece is one call of the API. -/

namespace MediaRelay.Telegram

variable {σ : Type} [BotApi σ]

def refusal? : Except Failure SentMedia → Option TransportError
  | .ok _ => none
  | .error e => some (.telegram e)

def Posts (thread : Thread) (t : TextTry) (a a' : σ) : Prop :=
  ∃ r, BotApi.send ⟨thread, .message t.text⟩ a = (r, a') ∧ t.refusal = refusal? r

def messageRecord (thread : Thread) (t : TextTry) : ApiRecord :=
  ⟨⟨thread, .message t.text⟩, t.refusal.isNone⟩

namespace Session

theorem takesOrRefuses (thread : Thread) : Outbox.TakesOrRefuses (Session σ) thread := by
  intro text s
  rcases hsend : s.sendText thread text with ⟨r, s'⟩
  cases r with
  | ok u =>
    refine ⟨⟨text, none⟩, rfl, s', ?_⟩
    simp [TextTry.Answers, Transport.sendText, hsend, answerOf, TextTry.answer, Except.mapError]
  | error e =>
    refine ⟨⟨text, some (.telegram e)⟩, rfl, s', ?_⟩
    simp [TextTry.Answers, Transport.sendText, hsend, answerOf, TextTry.answer, Except.mapError]

/-- A text of one message is one call. -/
theorem posts_of_answers {thread : Thread} {t : TextTry} {s s' : Session σ}
    (hfits : t.text.utf8ByteSize ≤ messageLimit) (h : t.Answers thread s s') :
    Posts thread t s.api s'.api ∧ s'.calls = s.calls ++ [messageRecord thread t] := by
  obtain ⟨text, refusal⟩ := t
  rcases hsend : BotApi.send ⟨thread, .message text⟩ s.api with ⟨r, a'⟩
  have hcalls : textCalls thread text = [⟨thread, .message text⟩] := by
    rw [textCalls, splitText_of_fits hfits, List.map_singleton]
  simp only [TextTry.Answers, Transport.sendText, sendText, hcalls, postAll, post, hsend] at h
  cases r with
  | ok media =>
    obtain ⟨hanswer, rfl⟩ := Prod.mk.inj h
    cases refusal with
    | none => exact ⟨⟨_, hsend, rfl⟩, rfl⟩
    | some e => cases hanswer
  | error e =>
    obtain ⟨hanswer, rfl⟩ := Prod.mk.inj h
    cases refusal with
    | none => cases hanswer
    | some e' =>
      cases hanswer
      exact ⟨⟨_, hsend, rfl⟩, rfl⟩

theorem posts_of_trace {thread : Thread} {tries : List TextTry} {s s' : Session σ}
    (hfits : ∀ t ∈ tries, t.text.utf8ByteSize ≤ messageLimit)
    (h : Trace (TextTry.Answers thread) tries s s') :
    Trace (Posts thread) tries s.api s'.api ∧
      s'.calls = s.calls ++ tries.map (messageRecord thread) := by
  induction h with
  | nil s => exact ⟨.nil _, by simp⟩
  | cons hstep _ ih =>
    obtain ⟨ht, hrest⟩ := List.forall_mem_cons.1 hfits
    obtain ⟨hposts, hcall⟩ := posts_of_answers ht hstep
    obtain ⟨htrace, hcalls⟩ := ih hrest
    exact ⟨.cons hposts htrace, by rw [hcalls, hcall, List.append_assoc]; rfl⟩

end Session

/-- A text goes out in pieces, each once and in order, over any platform that takes or refuses it;
over Telegram every try of a piece is one call of the API, for one message. -/
theorem sendMessage_goesOut :
    (∀ (τ : Type) [Transport τ] (o : Outbox) (thread : Thread) (text : String) (w : World τ),
      Outbox.TakesOrRefuses τ thread → w.stopped = false →
        let pieces := Outbox.textPieces (Transport.textLimit w.messenger) text
        let run := o.sendMessage thread text w
        String.join pieces = text ∧ ∃ tries,
          Trace (TextTry.Answers thread) tries w.messenger run.2.messenger ∧
          run.2.calls = w.calls ++ tries.map (·.record thread) ∧
          GoesOut (max o.attempts 1) pieces tries run.1) ∧
    (∀ (σ : Type) [BotApi σ] (o : Outbox) (thread : Thread) (text : String)
      (w : World (Session σ)), w.stopped = false →
        let pieces := splitText text messageLimit
        let run := o.sendMessage thread text w
        String.join pieces = text ∧ ∃ tries,
          Trace (Posts thread) tries w.messenger.api run.2.messenger.api ∧
          run.2.messenger.calls = w.messenger.calls ++ tries.map (messageRecord thread) ∧
          (∀ t ∈ tries, t.text.utf8ByteSize ≤ messageLimit) ∧
          GoesOut (max o.attempts 1) pieces tries run.1) := by
  constructor
  · intro τ _ o thread text w htakes hw
    obtain ⟨tries, hspoken, htold⟩ := Outbox.sendPieces_told htakes o
      (Outbox.textPieces (Transport.textLimit w.messenger) text) hw
    exact ⟨Outbox.join_textPieces _ text, tries, hspoken.trace, hspoken.calls, htold.goesOut⟩
  · intro σ _ o thread text w hw
    obtain ⟨tries, hspoken, htold⟩ := Outbox.sendPieces_told (Session.takesOrRefuses thread) o
      (splitText text messageLimit) hw
    have hfits : ∀ t ∈ tries, t.text.utf8ByteSize ≤ messageLimit := fun t ht =>
      utf8ByteSize_le_of_mem_splitText (by decide) (htold.text_mem ht)
    obtain ⟨htrace, hcalls⟩ := Session.posts_of_trace hfits hspoken.trace
    exact ⟨join_splitText text messageLimit, tries, htrace, hcalls, hfits, htold.goesOut⟩

/-! A text whose first piece is refused once. -/

structure Shy where
  refusals : ℕ

namespace Shy

instance : Transport Shy where
  selfId _ := 1
  textLimit _ := some 10
  sendText _ _ s :=
    match s.refusals with
    | 0 => (.accepted () false, s)
    | n + 1 => (.refused (.rejected "text refused") false, ⟨n⟩)
  upload _ _ s := (.refused .missingAttachment false, s)
  sendAttachments _ _ s := (.accepted () false, s)

instance : BotApi Shy where
  getMe s := (.ok 1, s)
  send _ s :=
    match s.refusals with
    | 0 => (.ok .none, s)
    | n + 1 => (.error (.flooded 1), ⟨n⟩)

theorem takesOrRefuses (thread : Thread) : Outbox.TakesOrRefuses Shy thread := by
  rintro text ⟨_ | n⟩
  · exact ⟨⟨text, none⟩, rfl, _, rfl⟩
  · exact ⟨⟨text, some (.rejected "text refused")⟩, rfl, _, rfl⟩

def outbox : Outbox := { attempts := 2, maxUpload := 100 }

def worldOf {τ : Type} (messenger : τ) : World τ :=
  { network := ⟨fun _ _ => .dropped⟩, client := { timeout := 1000 }, messenger }

def session : Session Shy := { api := ⟨1⟩, selfId := 1, cacheChat := -1 }

def letters : String := "aaaa bbbb cccc dddd"

theorem sendMessage_goesOut_letters :
    let run := outbox.sendMessage 42 letters (worldOf (Shy.mk 1))
    let run' := outbox.sendMessage 42 letters (worldOf session)
    Outbox.TakesOrRefuses Shy 42 ∧ (worldOf (Shy.mk 1)).stopped = false ∧
      (worldOf session).stopped = false ∧
      (String.join (Outbox.textPieces (some 10) letters) = letters ∧ ∃ tries,
        Trace (TextTry.Answers 42) tries (Shy.mk 1) run.2.messenger ∧
        run.2.calls = [] ++ tries.map (·.record 42) ∧
        GoesOut 2 (Outbox.textPieces (some 10) letters) tries run.1) ∧
      (String.join (splitText letters messageLimit) = letters ∧ ∃ tries,
        Trace (Posts 42) tries (Shy.mk 1) run'.2.messenger.api ∧
        run'.2.messenger.calls = [] ++ tries.map (messageRecord 42) ∧
        (∀ t ∈ tries, t.text.utf8ByteSize ≤ messageLimit) ∧
        GoesOut 2 (splitText letters messageLimit) tries run'.1) :=
  ⟨takesOrRefuses 42, rfl, rfl,
    sendMessage_goesOut.1 Shy outbox 42 letters (worldOf (Shy.mk 1)) (takesOrRefuses 42) rfl,
    sendMessage_goesOut.2 Shy outbox 42 letters (worldOf session) rfl⟩

end Shy

end MediaRelay.Telegram
