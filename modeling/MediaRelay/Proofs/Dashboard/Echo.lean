import MediaRelay.Proofs.Dashboard.Settings
import MediaRelay.Proofs.Text.Chunk
/-! Settings posted back just as the dashboard shows them. The token that is shown is a mark, and
the mark stands for the token in memory; all else is shown as it is. So such a post leaves the
settings as they are and writes them down, and a second one changes nothing at all. One thing can
stand in its way: a body may be no longer than the limit, and what is shown may be longer. -/

namespace MediaRelay

namespace Config

variable {c : Config}

theorem IsWritable.redacted (h : c.IsWritable) : c.redacted.IsWritable := ⟨h.unsigned, h.chat⟩

end Config

namespace ConfigStore

variable {s : ConfigStore}

/-- The mark of a token that is not shown stands for the token in memory. -/
theorem restored_redacted (h : isBlankText s.config.telegram.botToken = false) :
    s.restored s.config.redacted = s.config := by
  have hkeeps : keepsToken Config.redactionMark = true := by decide +kernel
  rw [Config.redacted_of_not_blank h]
  exact if_pos hkeeps

theorem post_redacted (h : s.config.IsSound) (hfile : s.file.isWritable = true) :
    s.post s.config.redacted = .ok { s with file := s.file.holding s.config } := by
  have hnone : s.file.refusal? s.config = none :=
    ConfigFile.refusal?_eq_none_iff.2 ⟨h.fault, h.writable.unsigned, hfile⟩
  rw [post_eq, restored_redacted h.not_blank, hnone]
  rfl

end ConfigStore

namespace Dashboard

variable {τ : Type} {q : Request} {s : Shared τ}

def Request.IsShow (q : Request) : Prop := q.method = "GET" ∧ q.path = "/api/config"

instance (q : Request) : Decidable q.IsShow := inferInstanceAs (Decidable (_ ∧ _))

theorem handle_show (h : q.IsShow) (m : Moment) (s : Shared τ) :
    handle m q s = (json s.store.config.redacted.toJson, s) := by
  obtain ⟨hmethod, hpath⟩ := h
  rw [handle, hpath, hmethod]
  rfl

theorem body_handle_show (h : q.IsShow) (m : Moment) (s : Shared τ) :
    (handle m q s).1.body = s.store.config.redacted.toJson.writeText := by
  rw [handle_show h]
  rfl

structure IsEcho (q : Request) (s : Shared τ) : Prop where
  isPost : q.IsPost
  isJson : (q.contentType.bind Web.MediaType.parse?).any (·.isJson) = true
  shown : ∃ m ask, Request.IsShow ask ∧ q.body = (handle m ask s).1.body.toUTF8

/-- A post is taken and leaves everything as it is but for the file, which then holds the settings
in memory; and once it was taken, it changes nothing if it comes again. -/
structure IsSettled (q : Request) (s : Shared τ) : Prop where
  status : ∀ m, (handle m q s).1.status = 200
  config : ∀ m, (handle m q s).2.store.config = s.store.config
  load : ∀ m, (handle m q s).2.store.file.load = .ok s.store.config
  rest : ∀ m, (handle m q s).2 = { s with store.file := (handle m q s).2.store.file }
  again : ∀ m m', handle m' q (handle m q s).2 = handle m q s

theorem IsEcho.body_eq (h : IsEcho q s) :
    q.body = s.store.config.redacted.toJson.writeText.toUTF8 := by
  obtain ⟨m, ask, hask, hbody⟩ := h.shown
  rw [hbody, body_handle_show hask]

theorem IsEcho.postedConfig_eq (h : IsEcho q s) (hc : s.store.config.IsSound)
    (hsize : q.body.size ≤ bodyLimit) : postedConfig q = .ok s.store.config.redacted := by
  have hdecode := hc.writable.redacted.decode_writeText
  rw [postedConfig, h.isJson, if_neg (by simp), if_neg (Nat.not_lt.2 hsize), h.body_eq]
  dsimp only at hdecode ⊢
  rw [hdecode]

theorem IsEcho.saveConfig_eq (h : IsEcho q s) (hc : s.store.config.IsSound)
    (hfile : s.store.file.isWritable = true) (hsize : q.body.size ≤ bodyLimit) :
    saveConfig q s = (done, { s with store.file := s.store.file.holding s.store.config }) := by
  rw [saveConfig, h.postedConfig_eq hc hsize]
  dsimp only
  rw [ConfigStore.post_redacted hc hfile]

/-- The settings are shown as before once an echo was taken. -/
theorem IsEcho.holding (h : IsEcho q s) (f : ConfigFile) :
    IsEcho q { s with store.file := f } := by
  obtain ⟨m, ask, hask, hbody⟩ := h.shown
  refine ⟨h.isPost, h.isJson, m, ask, hask, ?_⟩
  rw [hbody, body_handle_show hask, body_handle_show hask]

theorem IsEcho.isSettled (h : IsEcho q s) (hc : s.store.config.IsSound)
    (hfile : s.store.file.isWritable = true) (hsize : q.body.size ≤ bodyLimit) : IsSettled q s := by
  have hhandle : ∀ m, handle m q s =
      (done, { s with store.file := s.store.file.holding s.store.config }) := by
    intro m
    rw [handle_post h.isPost]
    exact h.saveConfig_eq hc hfile hsize
  constructor
  · intro m
    rw [hhandle]
    rfl
  · intro m
    rw [hhandle]
  · intro m
    rw [hhandle]
    exact ConfigFile.load_holding hc _
  · intro m
    rw [hhandle]
  · intro m m'
    rw [hhandle, handle_post h.isPost,
      (h.holding (s.store.file.holding s.store.config)).saveConfig_eq hc hfile hsize]
    rfl

theorem handle_of_too_long (hpost : q.IsPost)
    (hjson : (q.contentType.bind Web.MediaType.parse?).any (·.isJson) = true)
    (hsize : bodyLimit < q.body.size) (m : Moment) (s : Shared τ) :
    handle m q s = (text 413 "Failed to buffer the request body: length limit exceeded", s) := by
  rw [handle_post hpost, saveConfig, postedConfig, hjson, if_neg (by simp), if_pos hsize]

/-- Whatever happened to the settings of a program that began with settings from a file: while the
file can be written, the settings can be posted back as they are shown, and then they stay as they
are, the token too, and stand in the file. That is so exactly when the body keeps to the limit; a
longer one is refused, and nothing changes. -/
theorem isSettled_iff_size_le {source : ConfigFile} {config : Config}
    (h : source.load = .ok config) (file : ConfigFile) (es : List SettingsEvent)
    (hs : s.store = (es.foldl SettingsEvent.apply (Shared.ofConfig config file : Shared τ)).store)
    (hfile : s.store.file.isWritable = true) (hq : IsEcho q s) :
    (IsSettled q s ↔ q.body.size ≤ bodyLimit) ∧
      (bodyLimit < q.body.size → ∀ m, (handle m q s).1.status = 413 ∧ (handle m q s).2 = s) := by
  have hsound : s.store.config.IsSound :=
    hs ▸ SettingsEvent.isSound_foldl (ConfigFile.isSound_of_load h) es
  have hlong : bodyLimit < q.body.size →
      ∀ m, (handle m q s).1.status = 413 ∧ (handle m q s).2 = s := by
    intro hsize m
    rw [handle_of_too_long hq.isPost hq.isJson hsize]
    exact ⟨rfl, rfl⟩
  constructor
  · constructor
    · intro hsettled
      -- A refusal is no success, so a body that is settled cannot be too long.
      by_contra hsize
      have hrefused := (hlong (Nat.not_le.1 hsize) ⟨0, 0⟩).1
      rw [hsettled.status] at hrefused
      exact absurd hrefused (by decide)
    · exact hq.isSettled hsound hfile
  · exact hlong

def echoOf (s : Shared τ) : Request where
  method := "POST"
  target := "/api/config"
  contentType := some "application/json"
  body := s.store.config.redacted.toJson.writeText.toUTF8

theorem path_of_target {q : Request} (h : q.target = "/api/config") : q.path = "/api/config" := by
  rw [Request.path, h]
  decide +kernel

def showing : Request where
  method := "GET"
  target := "/api/config"

theorem isShow_showing : showing.IsShow := ⟨rfl, path_of_target rfl⟩

-- Not by `rfl`, which would write the settings down to compare the two.
theorem body_echoOf (s : Shared τ) :
    (echoOf s).body = s.store.config.redacted.toJson.writeText.toUTF8 := by
  rw [echoOf]

theorem size_echoOf (s : Shared τ) :
    (echoOf s).body.size = Text.byteSize s.store.config.redacted.toJson.write := by
  rw [body_echoOf, Text.byteSize_eq]
  rfl

theorem isEcho_echoOf (s : Shared τ) : IsEcho (echoOf s) s where
  isPost := ⟨rfl, path_of_target rfl⟩
  isJson := by
    change ((some "application/json").bind Web.MediaType.parse?).any (·.isJson) = true
    decide +kernel
  shown := by
    refine ⟨⟨0, 0⟩, showing, isShow_showing, ?_⟩
    rw [body_echoOf, body_handle_show isShow_showing]

/-- A token with blanks around it, in a file that was locked and gone for a while. -/
theorem isSettled_iff_size_le_outage :
    let s : Shared Unit := SettingsEvent.outage.foldl SettingsEvent.apply
      (Shared.ofConfig SettingsEvent.quotingConfig SettingsEvent.quotingFile)
    s.store.file.isWritable = true ∧ IsEcho (echoOf s) s ∧ IsSettled (echoOf s) s := by
  intro s
  have hfile : s.store.file.isWritable = true := by decide +kernel
  have hsize : (echoOf s).body.size ≤ bodyLimit := by
    rw [size_echoOf]
    decide +kernel
  exact ⟨hfile, isEcho_echoOf s, (isSettled_iff_size_le SettingsEvent.load_quotingFile _
    SettingsEvent.outage rfl hfile (isEcho_echoOf s)).1.2 hsize⟩

/-! ### Settings that are too long to be posted back -/

/-- What is shown is longer than the mark of commands. -/
theorem length_commandPrefix_lt (c : Config) :
    c.bot.commandPrefix.length < Text.byteSize c.toJson.write := by
  have hmark : c.bot.commandPrefix.length ≤ (Json.write (.str c.bot.commandPrefix)).length := by
    have := Json.length_le_flatMap_writeChar c.bot.commandPrefix.toList
    rw [String.length_toList] at this
    change _ ≤ (Json.writeString c.bot.commandPrefix).length
    rw [Json.writeString, List.length_cons, List.length_append]
    omega
  have hbot : (Json.write (.str c.bot.commandPrefix)).length < (Json.write c.bot.toJson).length :=
    Json.length_write_lt_of_mem (k := some "command_prefix") (.head _)
  have hconfig : (Json.write c.bot.toJson).length < (Json.write c.toJson).length :=
    Json.length_write_lt_of_mem (k := some "bot") (.tail _ (.head _))
  have hsize := Text.length_le_byteSize c.toJson.write
  omega

/-- Sound settings with a command prefix of a mebibyte. -/
def longConfig : Config where
  telegram := { botToken := "1:x", mediaCacheChatId := -1 }
  bot := { commandPrefix := String.ofList (List.replicate 0x100000 '!') }

def longFile : ConfigFile := ConfigFile.holding { path := "config.toml" } longConfig

theorem length_mark : longConfig.bot.commandPrefix.length = bodyLimit := by
  change (String.ofList (List.replicate 0x100000 '!')).length = bodyLimit
  rw [String.length_ofList, List.length_replicate]
  rfl

theorem isSound_longConfig : longConfig.IsSound where
  fault := by
    have htoken : isBlankText longConfig.telegram.botToken = false := by decide
    have hmark : longConfig.bot.commandPrefix.isEmpty = false := by
      rw [Bool.eq_false_iff, Ne, String.isEmpty_iff, ← String.length_eq_zero_iff, length_mark]
      decide
    rw [Config.fault?, htoken, hmark]
    rfl
  writable := ⟨by decide, by decide⟩

/-- Not all settings can be posted back: these are shown in more than a mebibyte, and refused. -/
theorem not_isSettled_long :
    let s : Shared Unit := Shared.ofConfig longConfig longFile
    longFile.load = .ok longConfig ∧ s.store.file.isWritable = true ∧ IsEcho (echoOf s) s ∧
      (handle ⟨0, 0⟩ (echoOf s) s).1.status = 413 ∧ ¬ IsSettled (echoOf s) s := by
  intro s
  have hsize : bodyLimit < (echoOf s).body.size := by
    rw [size_echoOf, ← length_mark]
    exact length_commandPrefix_lt s.store.config.redacted
  have hstatus : (handle ⟨0, 0⟩ (echoOf s) s).1.status = 413 := by
    rw [handle_of_too_long (isEcho_echoOf s).isPost (isEcho_echoOf s).isJson hsize]
    rfl
  have hload : longFile.load = .ok longConfig := ConfigFile.load_holding isSound_longConfig _
  have hfile : s.store.file.isWritable = true := rfl
  refine ⟨hload, hfile, isEcho_echoOf s, hstatus, ?_⟩
  intro hsettled
  rw [hsettled.status] at hstatus
  exact absurd hstatus (by decide)

end Dashboard

end MediaRelay
