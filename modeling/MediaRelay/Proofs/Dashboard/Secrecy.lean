import MediaRelay.Proofs.Dashboard.Settings
/-! Two programs that differ in their tokens alone. Whoever asks the dashboards of both the same
things at the same moments cannot tell them apart, whatever is asked for but the log, and whatever
is posted: the mark that stands for the token stands for the token of each, and all that is checked
of a token is whether it is blank. -/

namespace MediaRelay

namespace Config

variable {t₁ t₂ : String}

theorem withToken_botToken (c : Config) : c.withToken c.telegram.botToken = c := rfl

theorem fault?_withToken (h : isBlankText t₁ = isBlankText t₂) (c : Config) :
    (c.withToken t₁).fault? = (c.withToken t₂).fault? := by
  unfold fault? withToken
  rw [h]

end Config

/-! ### Posts -/

theorem ConfigFile.refusal?_withToken {f₁ f₂ : ConfigFile} {t₁ t₂ : String}
    (hblank : isBlankText t₁ = isBlankText t₂) (hpath : f₁.path = f₂.path)
    (hfile : f₁.isWritable = f₂.isWritable) (c : Config) :
    f₁.refusal? (c.withToken t₁) = f₂.refusal? (c.withToken t₂) := by
  have hnumbers : (c.withToken t₁).unsignedNumbers = (c.withToken t₂).unsignedNumbers := rfl
  rw [refusal?, refusal?, Config.fault?_withToken hblank, hnumbers, hpath, hfile]

inductive HoldAlike (before₁ before₂ : Option ByteArray) :
    Option ByteArray → Option ByteArray → Prop where
  | untouched : HoldAlike before₁ before₂ before₁ before₂
  | saved (c : Config) (t₁ t₂ : String) :
      HoldAlike before₁ before₂ (some (c.withToken t₁).bytes) (some (c.withToken t₂).bytes)

theorem HoldAlike.trans {a₁ a₂ b₁ b₂ c₁ c₂ : Option ByteArray} (h : HoldAlike a₁ a₂ b₁ b₂)
    (h' : HoldAlike b₁ b₂ c₁ c₂) : HoldAlike a₁ a₂ c₁ c₂ := by
  cases h' with
  | untouched => exact h
  | saved c t₁ t₂ => exact .saved c t₁ t₂

namespace ConfigStore

structure AlikeButToken (s₁ s₂ : ConfigStore) : Prop where
  config : s₂.config = s₁.config.withToken s₂.config.telegram.botToken
  not_blank₁ : isBlankText s₁.config.telegram.botToken = false
  not_blank₂ : isBlankText s₂.config.telegram.botToken = false
  path : s₁.file.path = s₂.file.path
  isWritable : s₁.file.isWritable = s₂.file.isWritable

variable {s₁ s₂ : ConfigStore}

/-- Posted settings mean the same in both stores but for the token. -/
theorem AlikeButToken.restored (h : AlikeButToken s₁ s₂) (posted : Config) :
    ∃ t₁ t₂, isBlankText t₁ = isBlankText t₂ ∧ s₁.restored posted = posted.withToken t₁ ∧
      s₂.restored posted = posted.withToken t₂ := by
  by_cases hkeeps : keepsToken posted.telegram.botToken = true
  · -- Each store puts in the token of its own.
    refine ⟨s₁.config.telegram.botToken, s₂.config.telegram.botToken, ?_, ?_, ?_⟩
    · rw [h.not_blank₁, h.not_blank₂]
    · rw [ConfigStore.restored, if_pos hkeeps]
    · rw [ConfigStore.restored, if_pos hkeeps]
  · -- The posted token is new, and the same for both.
    refine ⟨posted.telegram.botToken, posted.telegram.botToken, rfl, ?_, ?_⟩
    · rw [ConfigStore.restored, if_neg hkeeps, Config.withToken_botToken]
    · rw [ConfigStore.restored, if_neg hkeeps, Config.withToken_botToken]

/-- Posted settings are refused by both stores for the same reason, or taken by both. -/
theorem AlikeButToken.post (h : AlikeButToken s₁ s₂) (posted : Config) :
    (∃ e, s₁.post posted = .error e ∧ s₂.post posted = .error e) ∨
      ∃ s₁' s₂', s₁.post posted = .ok s₁' ∧ s₂.post posted = .ok s₂' ∧ AlikeButToken s₁' s₂' ∧
        HoldAlike s₁.file.content s₂.file.content s₁'.file.content s₂'.file.content := by
  obtain ⟨t₁, t₂, hblank, hrestored₁, hrestored₂⟩ := h.restored posted
  -- What can refuse the settings is the same on both sides, so one case analysis serves both.
  have hrefusal := ConfigFile.refusal?_withToken hblank h.path h.isWritable posted
  rw [post_eq, post_eq, hrestored₁, hrestored₂, hrefusal]
  cases hnone : s₂.file.refusal? (posted.withToken t₂) with
  | some e => exact .inl ⟨e, rfl, rfl⟩
  | none =>
    have hnot_blank := Config.not_blank_of_fault? (ConfigFile.refusal?_eq_none_iff.1 hnone).1
    change isBlankText t₂ = false at hnot_blank
    have halike : AlikeButToken ⟨posted.withToken t₁, s₁.file.holding (posted.withToken t₁)⟩
        ⟨posted.withToken t₂, s₂.file.holding (posted.withToken t₂)⟩ :=
      ⟨rfl, hblank.trans hnot_blank, hnot_blank, h.path, h.isWritable⟩
    exact .inr ⟨_, _, rfl, rfl, halike, .saved posted t₁ t₂⟩

end ConfigStore

/-! ### Requests -/

structure Shared.AlikeButToken {τ : Type} (s₁ s₂ : Shared τ) : Prop where
  store : s₁.store.AlikeButToken s₂.store
  rest : { s₁ with store := s₂.store, logs := s₂.logs } = s₂

namespace Dashboard

variable {τ α : Type} {s₁ s₂ : Shared τ}

structure RunAlike (s₁ s₂ : Shared τ) (r₁ r₂ : α × Shared τ) : Prop where
  answers : r₁.1 = r₂.1
  alike : r₁.2.AlikeButToken r₂.2
  files : HoldAlike s₁.store.file.content s₂.store.file.content r₁.2.store.file.content
    r₂.2.store.file.content
  logs : s₁.logs = s₂.logs → r₁.2.logs = r₂.2.logs

theorem runAlike_of_answer_eq (h : s₁.AlikeButToken s₂) {a₁ a₂ : α} (ha : a₁ = a₂) :
    RunAlike s₁ s₂ (a₁, s₁) (a₂, s₂) :=
  ⟨ha, h, .untouched, id⟩

theorem RunAlike.trans {β : Type} {r₁ r₂ : α × Shared τ} {r₁' r₂' : β × Shared τ}
    (h : RunAlike s₁ s₂ r₁ r₂) (h' : RunAlike r₁.2 r₂.2 r₁' r₂') : RunAlike s₁ s₂ r₁' r₂' :=
  ⟨h'.answers, h'.alike, h.files.trans h'.files, fun hlogs => h'.logs (h.logs hlogs)⟩

theorem saveConfig_runAlike (h : s₁.AlikeButToken s₂) (q : Request) :
    RunAlike s₁ s₂ (saveConfig q s₁) (saveConfig q s₂) := by
  rw [saveConfig, saveConfig]
  cases postedConfig q with
  | error r => exact runAlike_of_answer_eq h rfl
  | ok posted =>
    dsimp only
    rcases h.store.post posted with ⟨e, hpost₁, hpost₂⟩ | ⟨s₁', s₂', hpost₁, hpost₂, halike, hfiles⟩
    · rw [hpost₁, hpost₂]
      exact runAlike_of_answer_eq h rfl
    · rw [hpost₁, hpost₂]
      have hrest := congrArg (fun s : Shared τ => { s with store := s₂' }) h.rest
      exact ⟨rfl, ⟨halike, hrest⟩, hfiles, id⟩

theorem perform_runAlike (h : s₁.AlikeButToken s₂) (m : Moment) {route : Route}
    (hroute : route ≠ .logs) (action : Action) (q : Request) :
    RunAlike s₁ s₂ (perform m route action q s₁) (perform m route action q s₂) := by
  cases route with
  | index => exact runAlike_of_answer_eq h rfl
  | status =>
    have hstatus : statusJson m s₁ = statusJson m s₂ := by
      rw [← h.rest]
      rfl
    exact runAlike_of_answer_eq h (congrArg json hstatus)
  | commands =>
    have hcommands : commandsJson s₁ = commandsJson s₂ := by
      rw [← h.rest]
      rfl
    exact runAlike_of_answer_eq h (congrArg json hcommands)
  | config =>
    cases action with
    | read =>
      have hshown : s₁.store.config.redacted = s₂.store.config.redacted := by
        rw [Config.redacted_of_not_blank h.store.not_blank₁,
          Config.redacted_of_not_blank h.store.not_blank₂, h.store.config]
        rfl
      exact runAlike_of_answer_eq h (congrArg (fun c => json (Config.toJson c)) hshown)
    | write => exact saveConfig_runAlike h q
  | restart =>
    have hrest := congrArg (fun s : Shared τ => { s with restartAsked := true }) h.rest
    exact ⟨rfl, ⟨h.store, hrest⟩, .untouched, id⟩
  | logs => exact absurd rfl hroute

theorem routeOf?_eq_logs {path : String} (h : routeOf? path = some .logs) : path = "/api/logs" := by
  unfold routeOf? at h
  split at h
  all_goals first | rfl | cases h

/-- One request. -/
theorem handle_runAlike (h : s₁.AlikeButToken s₂) (m : Moment) {q : Request}
    (hq : q.path ≠ "/api/logs") : RunAlike s₁ s₂ (handle m q s₁) (handle m q s₂) := by
  rw [handle, handle]
  cases hroute : routeOf? q.path with
  | none => exact runAlike_of_answer_eq h rfl
  | some route =>
    dsimp only
    cases (actionOf? q.method).filter route.actions.contains with
    | none => exact runAlike_of_answer_eq h rfl
    | some action =>
      have hlogs : route ≠ .logs := by
        rintro rfl
        exact hq (routeOf?_eq_logs hroute)
      obtain ⟨hanswer, halike, hfiles, hsame⟩ := perform_runAlike h m hlogs action q
      dsimp only
      rw [hanswer]
      exact ⟨rfl, halike, hfiles, hsame⟩

/-! ### Runs of requests -/

structure Visit where
  moment : Moment
  request : Request
  isWritable : Bool

def Visit.answer (v : Visit) (s : Shared τ) : Response × Shared τ :=
  handle v.moment v.request { s with store.file.isWritable := v.isWritable }

def answerAll : List Visit → Shared τ → List Response × Shared τ
  | [], s => ([], s)
  | v :: vs, s =>
    let (r, s) := v.answer s
    let (rs, s) := answerAll vs s
    (r :: rs, s)

theorem answerAll_cons (v : Visit) (vs : List Visit) (s : Shared τ) :
    answerAll (v :: vs) s =
      ((v.answer s).1 :: (answerAll vs (v.answer s).2).1, (answerAll vs (v.answer s).2).2) := by
  rw [answerAll]

theorem answer_runAlike (h : s₁.AlikeButToken s₂) {v : Visit} (hv : v.request.path ≠ "/api/logs") :
    RunAlike s₁ s₂ (v.answer s₁) (v.answer s₂) := by
  have hrest := congrArg
    (fun s : Shared τ => { s with store.file.isWritable := v.isWritable }) h.rest
  have halike : Shared.AlikeButToken { s₁ with store.file.isWritable := v.isWritable }
      { s₂ with store.file.isWritable := v.isWritable } :=
    ⟨⟨h.store.config, h.store.not_blank₁, h.store.not_blank₂, h.store.path, rfl⟩, hrest⟩
  have hset : RunAlike s₁ s₂ ((), { s₁ with store.file.isWritable := v.isWritable })
      ((), { s₂ with store.file.isWritable := v.isWritable }) :=
    ⟨rfl, halike, .untouched, id⟩
  exact hset.trans (handle_runAlike halike v.moment hv)

/-- Two programs that differ in their tokens alone, neither of them blank, or in their logs, give
the same answers to the same requests, as long as none asks for the log. After them, and so after
each of them, they differ in their tokens alone, in memory and in what was written to the file
since; their logs are the same if they were so in the beginning. -/
theorem answerAll_runAlike (h : s₁.AlikeButToken s₂) (vs : List Visit)
    (hvs : ∀ v ∈ vs, v.request.path ≠ "/api/logs") :
    RunAlike s₁ s₂ (answerAll vs s₁) (answerAll vs s₂) := by
  induction vs generalizing s₁ s₂ with
  | nil => exact runAlike_of_answer_eq h rfl
  | cons v vs ih =>
    have hfirst := answer_runAlike h (hvs v (.head _))
    have hrest : ∀ w ∈ vs, w.request.path ≠ "/api/logs" := by
      intro w hw
      exact hvs w (.tail v hw)
    have hothers := ih hfirst.alike hrest
    have hboth := hfirst.trans hothers
    have hanswers := congrArg₂ List.cons hfirst.answers hothers.answers
    rw [answerAll_cons, answerAll_cons]
    exact ⟨hanswers, hboth.alike, hboth.files, hboth.logs⟩

/-- The settings are asked for, posted back while the file is locked, and once more when it can be
written; then a new token is posted. -/
def visits : List Visit :=
  let page : Request := { method := "GET", target := "/api/config?page=1" }
  let newToken : Request :=
    { SettingsEvent.redactedPost with
      body :=
        "\x7b\"telegram\":\x7b\"bot_token\":\"2:y\",\"media_cache_chat_id\":0\x7d\x7d".toUTF8 }
  [⟨⟨0, 0⟩, page, true⟩, ⟨⟨1, 1⟩, SettingsEvent.redactedPost, false⟩,
    ⟨⟨2, 2⟩, SettingsEvent.redactedPost, true⟩, ⟨⟨3, 3⟩, newToken, true⟩]

theorem answerAll_runAlike_visits :
    let s₁ : Shared Unit := Shared.ofConfig SettingsEvent.quotingConfig SettingsEvent.quotingFile
    let s₂ : Shared Unit :=
      { s₁ with
        store.config := SettingsEvent.quotingConfig.withToken "9:z"
        logs := s₁.logs.push "9:z" }
    s₁.AlikeButToken s₂ ∧ (∀ v ∈ visits, v.request.path ≠ "/api/logs") ∧
      (answerAll visits s₁).1.map (·.status) = [200, 500, 200, 200] ∧
      RunAlike s₁ s₂ (answerAll visits s₁) (answerAll visits s₂) := by
  intro s₁ s₂
  have halike : s₁.AlikeButToken s₂ := ⟨⟨rfl, by decide, by decide, rfl, rfl⟩, rfl⟩
  have hpaths : ∀ v ∈ visits, v.request.path ≠ "/api/logs" := by decide +kernel
  have hstatus : (answerAll visits s₁).1.map (·.status) = [200, 500, 200, 200] := by decide +kernel
  exact ⟨halike, hpaths, hstatus, answerAll_runAlike halike visits hpaths⟩

end Dashboard

end MediaRelay
