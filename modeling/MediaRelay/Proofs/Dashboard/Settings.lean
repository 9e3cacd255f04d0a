import MediaRelay.Dashboard.Routes
import MediaRelay.Proofs.Config.Json
import MediaRelay.Proofs.Config.Store
/-! The settings of a running program, in memory and on disk. Requests come to the dashboard,
somebody else rewrites the file, and the settings are read again. Whatever happens, those in memory
are sound and can be written: each step either keeps them or brings others that were checked
before. -/

namespace MediaRelay

/-! ### Posts -/

namespace ConfigStore

/-- The posted token, or the one in memory where the posted one says so. -/
theorem restored_eq (s : ConfigStore) (posted : Config) :
    s.restored posted =
      { posted with
        telegram.botToken :=
          if keepsToken posted.telegram.botToken then s.config.telegram.botToken
          else posted.telegram.botToken } := by
  rw [restored]
  split <;> rfl

theorem of_post_eq_ok {s s' : ConfigStore} {posted : Config} (h : s.post posted = .ok s')
    (hchat : Word.minSigned ≤ posted.telegram.mediaCacheChatId ∧
      posted.telegram.mediaCacheChatId ≤ Word.maxSigned) :
    s'.config = s.restored posted ∧ s'.file.load = .ok s'.config ∧ s'.config.IsSound := by
  obtain ⟨hnone, rfl⟩ := post_eq_ok_iff.1 h
  obtain ⟨hfault, hnumbers, -⟩ := ConfigFile.refusal?_eq_none_iff.1 hnone
  have hchat' : (s.restored posted).telegram.mediaCacheChatId =
      posted.telegram.mediaCacheChatId := by rw [restored_eq]
  have hsound : (s.restored posted).IsSound := ⟨hfault, hnumbers, hchat' ▸ hchat⟩
  exact ⟨rfl, ConfigFile.load_holding hsound _, hsound⟩

end ConfigStore

namespace Dashboard

variable {τ : Type}

theorem chat_of_postedConfig {q : Request} {c : Config} (h : postedConfig q = .ok c) :
    Word.minSigned ≤ c.telegram.mediaCacheChatId ∧
      c.telegram.mediaCacheChatId ≤ Word.maxSigned := by
  rw [postedConfig] at h
  split at h
  · cases h
  · split at h
    · cases h
    · dsimp only at h
      split at h
      case h_1 hc =>
        obtain rfl := Except.ok.inj h
        rw [Json.decodeDocument] at hc
        split at hc
        · cases hc
        · split at hc
          · cases hc
          · obtain rfl := Except.ok.inj hc
            exact Config.chat_of_decode ‹_›
      all_goals cases h

structure IsSaved (q : Request) (s s' : Shared τ) (posted : Config) : Prop where
  posted_eq : postedConfig q = .ok posted
  config_eq : s'.store.config =
    { posted with
      telegram.botToken :=
        if ConfigStore.keepsToken posted.telegram.botToken then s.store.config.telegram.botToken
        else posted.telegram.botToken }
  load_eq : s'.store.file.load = .ok s'.store.config
  rest : s' = { s with store := s'.store }

theorem status_of_postedConfig {q : Request} {r : Response} (h : postedConfig q = .error r) :
    r.status ≠ 200 := by
  rw [postedConfig] at h
  split at h
  · cases h
    decide
  · split at h
    · cases h
      decide
    · dsimp only at h
      split at h <;> cases h <;> decide

theorem saveStatus_ne (e : SaveError) : saveStatus e ≠ 200 := by
  unfold saveStatus
  split <;> decide

theorem saveConfig_cases (q : Request) (s : Shared τ) :
    ((saveConfig q s).1.status ≠ 200 ∧ (saveConfig q s).2 = s) ∨
      (saveConfig q s).1.status = 200 ∧ (saveConfig q s).2.store.config.IsSound ∧
        ∃ posted, IsSaved q s (saveConfig q s).2 posted := by
  rw [saveConfig]
  cases hposted : postedConfig q with
  | error r => exact .inl ⟨status_of_postedConfig hposted, rfl⟩
  | ok posted =>
    dsimp only
    cases hpost : s.store.post posted with
    | error e => exact .inl ⟨saveStatus_ne e, rfl⟩
    | ok store =>
      obtain ⟨hconfig, hload, hsound⟩ :=
        ConfigStore.of_post_eq_ok hpost (chat_of_postedConfig hposted)
      exact .inr ⟨rfl, hsound, posted, hposted, hconfig.trans (ConfigStore.restored_eq _ _),
        hload, rfl⟩

def Request.IsPost (q : Request) : Prop := q.method = "POST" ∧ q.path = "/api/config"

instance (q : Request) : Decidable q.IsPost := inferInstanceAs (Decidable (_ ∧ _))

theorem handle_post {q : Request} (h : q.IsPost) (m : Moment) (s : Shared τ) :
    handle m q s = saveConfig q s := by
  obtain ⟨hmethod, hpath⟩ := h
  rw [handle, hpath, hmethod]
  rfl

/-- No other request touches the settings. -/
theorem handle_store (m : Moment) (q : Request) (s : Shared τ) :
    (handle m q s).2.store = s.store ∨ (handle m q s).2.store = (saveConfig q s).2.store := by
  rw [handle]
  split
  · exact .inl rfl
  case h_2 route =>
    split
    · exact .inl rfl
    case h_2 action =>
      dsimp only
      unfold perform
      split
      case h_5 => exact .inr rfl
      all_goals exact .inl rfl

end Dashboard

/-! ### Whole histories -/

inductive SettingsEvent where
  /-- a request comes to the dashboard -/
  | request (m : Dashboard.Moment) (q : Dashboard.Request)
  /-- somebody else writes the file or takes it away, or it can be written no longer or again -/
  | rewrite (content : Option ByteArray) (isWritable : Bool)
  /-- the settings are read again -/
  | reload

namespace SettingsEvent

variable {τ : Type}

def apply (s : Shared τ) : SettingsEvent → Shared τ
  | .request m q => (Dashboard.handle m q s).2
  | .rewrite content isWritable =>
    { s with store.file.content := content, store.file.isWritable := isWritable }
  | .reload => s.reloaded

/-- Reading the settings again brings those of the file, or changes nothing. -/
theorem reloaded_cases (s : Shared τ) :
    (∃ c, s.store.file.load = .ok c ∧ s.reloaded = { s with store.config := c }) ∨
      (∃ e, s.store.file.load = .error e) ∧ s.reloaded = s := by
  rw [Shared.reloaded, ConfigStore.reload]
  cases s.store.file.load with
  | ok c => exact .inl ⟨c, rfl, rfl⟩
  | error e => exact .inr ⟨⟨e, rfl⟩, rfl⟩

theorem isSound_apply {s : Shared τ} (h : s.store.config.IsSound) (e : SettingsEvent) :
    (apply s e).store.config.IsSound := by
  cases e with
  | request m q =>
    rcases Dashboard.handle_store m q s with hstore | hstore
    · exact hstore ▸ h
    · rcases Dashboard.saveConfig_cases q s with ⟨-, hsame⟩ | ⟨-, hsound, -⟩
      · exact (hstore.trans (congrArg Shared.store hsame)) ▸ h
      · exact hstore ▸ hsound
  | rewrite content isWritable => exact h
  | reload =>
    rcases reloaded_cases s with ⟨c, hload, hs⟩ | ⟨-, hs⟩
    · rw [apply, hs]
      exact ConfigFile.isSound_of_load hload
    · rw [apply, hs]
      exact h

theorem isSound_foldl {s : Shared τ} (h : s.store.config.IsSound) (es : List SettingsEvent) :
    (es.foldl apply s).store.config.IsSound := by
  induction es generalizing s with
  | nil => exact h
  | cons e es ih => exact ih (isSound_apply h e)

/-- A program that began with settings from a file has sound ones at any time, whose numbers all fit
into a signed word. A post of settings that is not answered with success changes nothing; one that
is leaves the posted settings in memory, with the token in memory where the posted one stands for
it, and a file that holds exactly these. Reading the settings again brings what the file holds, or
changes nothing. -/
theorem settings_sound_and_saved {source : ConfigFile} {config : Config}
    (h : source.load = .ok config) (file : ConfigFile) (es : List SettingsEvent) :
    let s : Shared τ := es.foldl apply (Shared.ofConfig config file)
    (s.store.config.validate = .ok s.store.config ∧
        isBlankText s.store.config.telegram.botToken = false ∧
        ∀ n ∈ s.store.config.unsignedNumbers, n ≤ 0x7FFFFFFFFFFFFFFF) ∧
      (∀ m q, q.IsPost →
        ((Dashboard.handle m q s).1.status ≠ 200 → (Dashboard.handle m q s).2 = s) ∧
        ((Dashboard.handle m q s).1.status = 200 →
          ∃ posted, Dashboard.IsSaved q s (Dashboard.handle m q s).2 posted)) ∧
      ((∃ c, s.store.file.load = .ok c ∧ s.reloaded = { s with store.config := c }) ∨
        (∃ e, s.store.file.load = .error e) ∧ s.reloaded = s) := by
  intro s
  have hsound : s.store.config.IsSound := isSound_foldl (ConfigFile.isSound_of_load h) es
  refine ⟨⟨Config.validate_eq_ok_iff.2 ⟨hsound.fault, rfl⟩, hsound.not_blank, fun n hn => ?_⟩,
    fun m q hq => ?_, reloaded_cases s⟩
  · exact Int.ofNat_le.1 (hsound.writable.unsigned n hn)
  · rw [Dashboard.handle_post hq]
    rcases Dashboard.saveConfig_cases q s with ⟨hstatus, hsame⟩ | ⟨hstatus, -, hsaved⟩
    · exact ⟨fun _ => hsame, fun hok => absurd hok hstatus⟩
    · exact ⟨fun hno => absurd hstatus hno, fun _ => hsaved⟩

/-- Settings with a token that holds quotes of both kinds, and a break. -/
def quotingConfig : Config where
  telegram := { botToken := "1:\"x\"'\n", allowedUserIds := [5, 7], mediaCacheChatId := -1 }

def quotingFile : ConfigFile where
  path := "config.toml"
  content := some (String.ofList quotingConfig.writeChars).toUTF8

theorem load_quotingFile : quotingFile.load = .ok quotingConfig := by
  have hsave : ConfigFile.save { path := "config.toml" } quotingConfig = .ok quotingFile := rfl
  exact (ConfigFile.load_of_save hsave rfl (by decide)).1

/-- A post of settings that leaves the token as it is. -/
def redactedPost : Dashboard.Request where
  method := "POST"
  target := "/api/config?from=page"
  contentType := some "application/json"
  body :=
    "\x7b\"telegram\":\x7b\"bot_token\":\" ********\",\"media_cache_chat_id\":-2\x7d\x7d".toUTF8

/-- The file is locked, then gone; then it can be written again. -/
def outage : List SettingsEvent :=
  [.rewrite quotingFile.content false, .request ⟨0, 0⟩ redactedPost, .rewrite none false, .reload,
    .rewrite none true]

theorem settings_sound_and_saved_outage :
    quotingFile.load = .ok quotingConfig ∧ redactedPost.IsPost ∧
      let s : Shared Unit := outage.foldl apply (Shared.ofConfig quotingConfig quotingFile)
      (Dashboard.handle ⟨0, 0⟩ redactedPost s).1.status = 200 ∧
      ∃ posted, Dashboard.IsSaved redactedPost s (Dashboard.handle ⟨0, 0⟩ redactedPost s).2
        posted := by
  have hpost : redactedPost.IsPost := by decide +kernel
  have hstatus : (Dashboard.handle ⟨0, 0⟩ redactedPost
      (outage.foldl apply (Shared.ofConfig quotingConfig quotingFile) : Shared Unit)).1.status =
        200 := by
    decide +kernel
  have hposts := (settings_sound_and_saved (τ := Unit) load_quotingFile quotingFile outage).2.1
  exact ⟨load_quotingFile, hpost, hstatus, (hposts ⟨0, 0⟩ redactedPost hpost).2 hstatus⟩

end SettingsEvent

end MediaRelay
