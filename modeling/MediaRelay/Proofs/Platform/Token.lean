import MediaRelay.Proofs.Platform.Extraction
import MediaRelay.Proofs.Token
/-! Work on the web is prompt: a fetch, with all of its redirects, and with it each way of
extraction. The token can fire only where an exchange is not answered, and there the fetch is left
waiting. -/

namespace MediaRelay

variable {τ : Type}

open Web

namespace Fetch

theorem late_exchange (due : Nanos) (shown : String) (url : Url) (q : Request) (w : World τ) :
    (exchange due shown url q w).2.late = w.lateWith (.request q) := by
  unfold exchange
  dsimp only
  split
  · rfl
  · rfl
  · split
    · next hsleep => simpa using World.late_of_sleep hsleep
    · next hsleep => simpa using World.late_of_sleep hsleep
  · rfl
  · rfl

theorem isPrompt_exchange (due : Nanos) (shown : String) (url : Url) (q : Request) :
    (exchange due shown url q : Job τ _).IsPrompt where
  timely w hw := (late_exchange due shown url q w).trans (World.lateWith_of_not_stopped hw _)
  inTime w a w' hw h := by
    unfold exchange at h
    dsimp only at h
    split at h
    · obtain ⟨-, rfl⟩ := Prod.mk.inj h
      exact hw
    · obtain ⟨-, rfl⟩ := Prod.mk.inj h
      exact hw
    · split at h
      · next hsleep =>
        obtain ⟨-, rfl⟩ := Prod.mk.inj h
        exact World.stopped_of_sleep hsleep
      · cases (Prod.mk.inj h).1
    · cases (Prod.mk.inj h).1
    · cases (Prod.mk.inj h).1

/-- A fetch goes on to the next address only after an answer, until which the token did not fire. -/
theorem Chain.prompt {w w' : World τ} {o : Outcome (Except HttpError Reply)} (h : Chain w o w')
    (hw : w.stopped = false) : w'.late = w.late ∧ ∀ a, o = .done a → w'.stopped = false := by
  induction h with
  | @last w w' due shown url q o h r =>
    have hx := isPrompt_exchange (τ := τ) due shown url q
    refine ⟨by simpa [h] using hx.timely w hw, fun a ha => ?_⟩
    cases o with
    | done a => exact hx.inTime w a w' hw h
    | _ => cases ha
  | @redirected w w₁ w' due shown url q a o h rest ih =>
    have hx := isPrompt_exchange (τ := τ) due shown url q
    have hlate : w₁.late = w.late := by simpa [h] using hx.timely w hw
    obtain ⟨hrest, hdone⟩ := ih (hx.inTime w a w₁ hw h)
    exact ⟨hrest.trans hlate, hdone⟩

theorem isPrompt_send (d : Draft) : (send d : Job τ _).IsPrompt where
  timely w hw := by
    rcases hsend : send d w with ⟨o, w'⟩
    rcases send_cases hsend with ⟨e, -, rfl⟩ | hchain
    · rfl
    · exact (hchain.prompt hw).1
  inTime w a w' hw h := by
    rcases send_cases h with ⟨e, -, rfl⟩ | hchain
    · exact hw
    · exact (hchain.prompt hw).2 a rfl

end Fetch

theorem Job.takesInWeb_isPrompt : TakesInWeb fun α (job : Job τ α) => job.IsPrompt where
  pure := isPrompt_pure
  fail := isPrompt_fail
  bind h hnext := h.bind hnext
  mapError f h := h.mapError f
  watch h := h.watch
  retry b h := h.retry b
  rest := isPrompt_rest
  send := Fetch.isPrompt_send

namespace Platform

def IsPrompt (p : Platform τ) : Prop := ∀ link, (p.extract link).IsPrompt

theorem isPrompt_of_mem_defaults {p : Platform τ} (h : p ∈ Platform.defaults) : p.IsPrompt :=
  takesIn_of_mem_defaults Job.takesInWeb_isPrompt h

theorem isPrompt_itemsOf {platforms : List (Platform τ)} (h : ∀ p ∈ platforms, p.IsPrompt)
    (link : String) : (itemsOf platforms link).IsPrompt :=
  takesIn_itemsOf Job.takesInWeb_isPrompt fun p hp => h p hp link

end Platform
end MediaRelay
