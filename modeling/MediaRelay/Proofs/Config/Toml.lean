import MediaRelay.Config.Toml
import MediaRelay.Proofs.Toml.Document
/-! Settings that are written are read back field for field, whatever texts and numbers they hold,
and settings with a number that no file can hold are not written at all. -/

namespace MediaRelay

open Toml

theorem Word.isSigned_natCast {n : ℕ} (h : (n : Int) ≤ maxSigned) :
    minSigned ≤ (n : Int) ∧ (n : Int) ≤ maxSigned :=
  ⟨Int.le_trans (by decide) (Int.natCast_nonneg n), h⟩

namespace Toml.Binding

def ofString (key s : String) (bare : IsBare key) : Binding where
  key := key
  text := writeString s.toList
  value := .string s
  bare := bare
  written := isWritten_string _ s

def ofSigned (key : String) (n : Int) (h : Word.minSigned ≤ n ∧ n ≤ Word.maxSigned)
    (bare : IsBare key) : Binding where
  key := key
  text := writeInteger n
  value := .integer ⟨n, h⟩
  bare := bare
  written := isWritten_integer _ ⟨n, h⟩

def ofUnsigned (key : String) (n : ℕ) (h : (n : Int) ≤ Word.maxSigned) (bare : IsBare key) :
    Binding :=
  ofSigned key n (Word.isSigned_natCast h) bare

def ofBool (key : String) (b : Bool) (bare : IsBare key) : Binding where
  key := key
  text := writeBoolean b
  value := .boolean b
  bare := bare
  written := isWritten_boolean _ b

def items (ns : List ℕ) (h : ∀ n ∈ ns, (n : Int) ≤ Word.maxSigned) : List (List Char × Toml) :=
  ns.pmap (fun (n : ℕ) hn => (writeInteger n, .integer ⟨n, Word.isSigned_natCast hn⟩)) h

theorem items_fst (ns : List ℕ) (h : ∀ n ∈ ns, (n : Int) ≤ Word.maxSigned) :
    (items ns h).map (·.1) = ns.map fun (n : ℕ) => writeInteger n := by
  rw [items, List.map_pmap]
  exact List.pmap_eq_map h

theorem unsigned64?_natCast {n : ℕ} (h : (n : Int) ≤ Word.maxSigned) :
    unsigned64? (.integer ⟨n, Word.isSigned_natCast h⟩) = some n := by
  simp [unsigned64?]

theorem unsignedList?_items (ns : List ℕ) (h : ∀ n ∈ ns, (n : Int) ≤ Word.maxSigned) :
    unsignedList? (.array ((items ns h).map (·.2))) = some ns := by
  rw [unsignedList?, items, List.map_pmap]
  induction ns with
  | nil => rfl
  | cons n ns ih =>
    simp [unsigned64?_natCast (h n (by simp)), ih fun m hm => h m (.tail n hm)]

def ofUnsignedList (key : String) (ns : List ℕ) (h : ∀ n ∈ ns, (n : Int) ≤ Word.maxSigned)
    (bare : IsBare key) : Binding where
  key := key
  text := writeArray (ns.map fun (n : ℕ) => writeInteger n)
  value := .array ((items ns h).map (·.2))
  bare := bare
  written := by
    rw [← items_fst ns h]
    refine isWritten_array fun i hi => ?_
    rw [items] at hi
    obtain ⟨n, hn, rfl⟩ := List.mem_pmap.1 hi
    exact isWritten_integer _ ⟨n, Word.isSigned_natCast (h n hn)⟩

end Toml.Binding

namespace Config

structure IsWritable (c : Config) : Prop where
  unsigned : ∀ n ∈ c.unsignedNumbers, (n : Int) ≤ Word.maxSigned
  chat : Word.minSigned ≤ c.telegram.mediaCacheChatId ∧
    c.telegram.mediaCacheChatId ≤ Word.maxSigned

variable {c : Config}

open Binding

def IsWritable.telegram (h : c.IsWritable) : Table where
  name := "telegram"
  bindings := [ofString "bot_token" c.telegram.botToken (by decide),
    ofUnsignedList "allowed_user_ids" c.telegram.allowedUserIds
      (fun n hn => h.unsigned n (List.mem_append_left _ hn)) (by decide),
    ofSigned "media_cache_chat_id" c.telegram.mediaCacheChatId h.chat (by decide)]
  bare := by decide
  nodup := show ["bot_token", "allowed_user_ids", "media_cache_chat_id"].Nodup by decide

def IsWritable.bot (h : c.IsWritable) : Table where
  name := "bot"
  bindings := [ofString "command_prefix" c.bot.commandPrefix (by decide),
    ofUnsigned "cooldown_secs" c.bot.cooldownSecs (h.unsigned _ (by simp [unsignedNumbers]))
      (by decide),
    ofBool "auto_media" c.bot.autoMedia (by decide),
    ofString "cooldown_sweep_cron" c.bot.cooldownSweepCron (by decide)]
  bare := by decide
  nodup := show ["command_prefix", "cooldown_secs", "auto_media", "cooldown_sweep_cron"].Nodup by
    decide

def IsWritable.media (h : c.IsWritable) : Table where
  name := "media"
  bindings :=
    let number (key : String) (n : ℕ) (hn : n ∈ c.unsignedNumbers) (bare : IsBare key) : Binding :=
      ofUnsigned key n (h.unsigned n hn) bare
    [number "max_download_bytes" c.media.maxDownloadBytes (by simp [unsignedNumbers]) (by decide),
      number "max_upload_bytes" c.media.maxUploadBytes (by simp [unsignedNumbers]) (by decide),
      number "max_concurrent_downloads" c.media.maxConcurrentDownloads (by simp [unsignedNumbers])
        (by decide),
      number "fetch_timeout_secs" c.media.fetchTimeoutSecs (by simp [unsignedNumbers]) (by decide),
      number "pipeline_timeout_secs" c.media.pipelineTimeoutSecs (by simp [unsignedNumbers])
        (by decide),
      number "send_attempts" c.media.sendAttempts (by simp [unsignedNumbers]) (by decide)]
  bare := by decide
  nodup := show ["max_download_bytes", "max_upload_bytes", "max_concurrent_downloads",
    "fetch_timeout_secs", "pipeline_timeout_secs", "send_attempts"].Nodup by decide

variable (c) in
def dashboardTable : Table where
  name := "dashboard"
  bindings := [ofBool "enabled" c.dashboard.enabled (by decide),
    ofString "bind" c.dashboard.bind (by decide)]
  bare := by decide
  nodup := show ["enabled", "bind"].Nodup by decide

/-- The file is these four tables. -/
theorem IsWritable.writeChars_eq (h : c.IsWritable) :
    c.writeChars = writeTables
      ([h.telegram, h.bot, h.media, c.dashboardTable].map Table.write) := rfl

theorem optional_of_lookup {α : Type} {read : Toml → Option α} {place : ℕ} {name : String}
    {default a : α} {entries : List (String × Toml)} {t : Toml}
    (h : entries.lookup name = some t) (hread : read t = some a) :
    Toml.optional read place name default (.table entries) = some a := by
  simp [Toml.optional, setting?, h, hread]

theorem required_of_lookup {α : Type} {read : Toml → Option α} {place : ℕ} {name : String}
    {a : α} {entries : List (String × Toml)} {t : Toml}
    (h : entries.lookup name = some t) (hread : read t = some a) :
    Toml.required read place name (.table entries) = some a := by
  simp [Toml.required, setting?, h, hread]

theorem IsWritable.optional_unsigned (h : c.IsWritable) {n : ℕ} (hn : n ∈ c.unsignedNumbers)
    {place : ℕ} {name : String} {default : ℕ} {entries : List (String × Toml)}
    (hlookup : entries.lookup name =
      some (.integer ⟨n, Word.isSigned_natCast (h.unsigned n hn)⟩)) :
    Toml.optional unsigned64? place name default (.table entries) = some n :=
  optional_of_lookup hlookup (unsigned64?_natCast (h.unsigned n hn))

/-! Each table is read back setting by setting. -/

theorem IsWritable.telegram_ofToml? (h : c.IsWritable) :
    Telegram.ofToml? h.telegram.value.2 = some c.telegram := by
  have htoken : required string? 0 "bot_token" h.telegram.value.2 = some c.telegram.botToken :=
    required_of_lookup rfl rfl
  have hids : Toml.optional unsignedList? 1 "allowed_user_ids" [] h.telegram.value.2 =
      some c.telegram.allowedUserIds :=
    optional_of_lookup rfl (unsignedList?_items _ _)
  have hchat : required integer64? 2 "media_cache_chat_id" h.telegram.value.2 =
      some c.telegram.mediaCacheChatId :=
    required_of_lookup rfl rfl
  rw [Telegram.ofToml?, htoken, hids, hchat]
  rfl

theorem IsWritable.bot_ofToml? (h : c.IsWritable) : Bot.ofToml? h.bot.value.2 = some c.bot := by
  have hmark : ∀ d, Toml.optional string? 0 "command_prefix" d h.bot.value.2 =
      some c.bot.commandPrefix := fun _ => optional_of_lookup rfl rfl
  have hcooldown : ∀ d, Toml.optional unsigned64? 1 "cooldown_secs" d h.bot.value.2 =
      some c.bot.cooldownSecs := fun _ => h.optional_unsigned (by simp [unsignedNumbers]) rfl
  have hauto : ∀ d, Toml.optional boolean? 2 "auto_media" d h.bot.value.2 =
      some c.bot.autoMedia := fun _ => optional_of_lookup rfl rfl
  have hcron : ∀ d, Toml.optional string? 3 "cooldown_sweep_cron" d h.bot.value.2 =
      some c.bot.cooldownSweepCron := fun _ => optional_of_lookup rfl rfl
  have hgroup : h.bot.value.2.isGroup = true := rfl
  rw [Bot.ofToml?, hgroup]
  simp [hmark, hcooldown, hauto, hcron]

theorem IsWritable.media_ofToml? (h : c.IsWritable) :
    Media.ofToml? h.media.value.2 = some c.media := by
  have hdownload : ∀ d, Toml.optional unsigned64? 0 "max_download_bytes" d h.media.value.2 =
      some c.media.maxDownloadBytes := fun _ => h.optional_unsigned (by simp [unsignedNumbers]) rfl
  have hupload : ∀ d, Toml.optional unsigned64? 1 "max_upload_bytes" d h.media.value.2 =
      some c.media.maxUploadBytes := fun _ => h.optional_unsigned (by simp [unsignedNumbers]) rfl
  have htasks : ∀ d, Toml.optional unsigned64? 2 "max_concurrent_downloads" d h.media.value.2 =
      some c.media.maxConcurrentDownloads :=
    fun _ => h.optional_unsigned (by simp [unsignedNumbers]) rfl
  have hfetch : ∀ d, Toml.optional unsigned64? 3 "fetch_timeout_secs" d h.media.value.2 =
      some c.media.fetchTimeoutSecs := fun _ => h.optional_unsigned (by simp [unsignedNumbers]) rfl
  have hpipeline : ∀ d, Toml.optional unsigned64? 4 "pipeline_timeout_secs" d h.media.value.2 =
      some c.media.pipelineTimeoutSecs :=
    fun _ => h.optional_unsigned (by simp [unsignedNumbers]) rfl
  have hattempts : ∀ d, Toml.optional unsigned64? 5 "send_attempts" d h.media.value.2 =
      some c.media.sendAttempts := fun _ => h.optional_unsigned (by simp [unsignedNumbers]) rfl
  have hgroup : h.media.value.2.isGroup = true := rfl
  rw [Media.ofToml?, hgroup]
  simp [hdownload, hupload, htasks, hfetch, hpipeline, hattempts]

theorem dashboard_ofToml? (c : Config) :
    Dashboard.ofToml? c.dashboardTable.value.2 = some c.dashboard := by
  have henabled : ∀ d, Toml.optional boolean? 0 "enabled" d c.dashboardTable.value.2 =
      some c.dashboard.enabled := fun _ => optional_of_lookup rfl rfl
  have hbind : ∀ d, Toml.optional string? 1 "bind" d c.dashboardTable.value.2 =
      some c.dashboard.bind := fun _ => optional_of_lookup rfl rfl
  have hgroup : c.dashboardTable.value.2.isGroup = true := rfl
  rw [Dashboard.ofToml?, hgroup]
  simp [henabled, hbind]

theorem IsWritable.ofToml? (h : c.IsWritable) :
    Config.ofToml? (.table ([h.telegram, h.bot, h.media, c.dashboardTable].map Table.value)) =
      some c := by
  rw [Config.ofToml?, required_of_lookup rfl h.telegram_ofToml?,
    optional_of_lookup rfl h.bot_ofToml?, optional_of_lookup rfl h.media_ofToml?,
    optional_of_lookup rfl c.dashboard_ofToml?]
  rfl

/-- Settings are written exactly when all their unsigned numbers fit. -/
theorem write_eq_ok_iff {text : String} :
    c.write = .ok text ↔
      (∀ n ∈ c.unsignedNumbers, (n : Int) ≤ Word.maxSigned) ∧
        text = String.ofList c.writeChars := by
  rw [write]
  split
  case isTrue h =>
    obtain ⟨n, hn, hlarge⟩ := List.any_eq_true.1 h
    simp only [reduceCtorEq, false_iff, not_and]
    intro hall
    have := hall n hn
    simp at hlarge
    omega
  case isFalse h =>
    have hall : ∀ n ∈ c.unsignedNumbers, (n : Int) ≤ Word.maxSigned := by simpa using h
    rw [Except.ok.injEq]
    exact ⟨fun h => ⟨hall, h.symm⟩, fun h => h.2.symm⟩

theorem write_eq_error_iff {e : ConfigError} :
    c.write = .error e ↔
      (∃ n ∈ c.unsignedNumbers, Word.maxSigned < (n : Int)) ∧ e = .unwritable := by
  rw [write]
  split
  case isTrue h =>
    have hlarge : ∃ n ∈ c.unsignedNumbers, Word.maxSigned < (n : Int) := by simpa using h
    simp [hlarge, eq_comm]
  case isFalse h =>
    have hall : ∀ n ∈ c.unsignedNumbers, (n : Int) ≤ Word.maxSigned := by simpa using h
    simp only [reduceCtorEq, false_iff, not_and]
    rintro ⟨n, hn, hlarge⟩
    have := hall n hn
    omega

/-- What is written is read back, and checked like any settings. -/
theorem IsWritable.parse_writeChars (h : c.IsWritable) :
    Config.parse (String.ofList c.writeChars) = c.validate := by
  have hnodup : ([h.telegram, h.bot, h.media, c.dashboardTable].map (·.name)).Nodup :=
    show ["telegram", "bot", "media", "dashboard"].Nodup by decide
  rw [parse, h.writeChars_eq, parse?_writeTables hnodup, Option.bind_some, h.ofToml?]

/-! ### What is read can be written -/

theorem le_of_unsigned64? {t : Toml} {n : ℕ} (h : unsigned64? t = some n) :
    (n : Int) ≤ Word.maxSigned := by
  cases t with
  | integer m =>
    obtain ⟨hm, rfl⟩ : 0 ≤ m.val ∧ m.val.toNat = n := by simpa [unsigned64?] using h
    rw [Int.toNat_of_nonneg hm]
    exact m.property.2
  | _ => simp [unsigned64?] at h

theorem le_of_unsignedList? {t : Toml} {ns : List ℕ} (h : unsignedList? t = some ns) :
    ∀ n ∈ ns, (n : Int) ≤ Word.maxSigned := by
  cases t with
  | array items =>
    rw [unsignedList?] at h
    induction items generalizing ns with
    | nil =>
      obtain rfl : ns = [] := by simpa using h.symm
      simp
    | cons i items ih =>
      simp only [List.mapM_cons, Option.pure_def, Option.bind_eq_bind, Option.bind_eq_some_iff] at h
      obtain ⟨n, hn, ms, hms, hns⟩ := h
      obtain rfl := Option.some.inj hns
      simp only [List.forall_mem_cons]
      exact ⟨le_of_unsigned64? hn, ih hms⟩
  | _ => simp [unsignedList?] at h

theorem isSigned_of_integer64? {t : Toml} {n : Int} (h : integer64? t = some n) :
    Word.minSigned ≤ n ∧ n ≤ Word.maxSigned := by
  cases t with
  | integer m =>
    obtain rfl : m.val = n := by simpa [integer64?] using h
    exact m.property
  | _ => simp [integer64?] at h

/-- A setting is read or takes its default. -/
theorem of_optional {α : Type} {read : Toml → Option α} {place : ℕ} {name : String}
    {default a : α} {t : Toml} (h : Toml.optional read place name default t = some a) :
    (∃ v, read v = some a) ∨ a = default := by
  rw [Toml.optional] at h
  split at h
  · exact .inl ⟨_, h⟩
  · exact .inr (Option.some.inj h).symm

theorem of_required {α : Type} {read : Toml → Option α} {place : ℕ} {name : String}
    {a : α} {t : Toml} (h : required read place name t = some a) : ∃ v, read v = some a := by
  obtain ⟨v, -, hv⟩ := Option.bind_eq_some_iff.1 h
  exact ⟨v, hv⟩

theorem le_of_optional {place : ℕ} {name : String} {default n : ℕ} {t : Toml}
    (h : Toml.optional unsigned64? place name default t = some n)
    (hdefault : (default : Int) ≤ Word.maxSigned) : (n : Int) ≤ Word.maxSigned := by
  rcases of_optional h with ⟨v, hv⟩ | rfl
  · exact le_of_unsigned64? hv
  · exact hdefault

theorem Telegram.isWritable_of_ofToml? {t : Toml} {g : Telegram} (h : Telegram.ofToml? t = some g) :
    (∀ n ∈ g.allowedUserIds, (n : Int) ≤ Word.maxSigned) ∧
      Word.minSigned ≤ g.mediaCacheChatId ∧ g.mediaCacheChatId ≤ Word.maxSigned := by
  simp only [Telegram.ofToml?, Option.pure_def, Option.bind_eq_bind, Option.bind_eq_some_iff] at h
  obtain ⟨token, -, ids, hids, chat, hchat, hg⟩ := h
  obtain rfl := Option.some.inj hg
  constructor
  · rcases of_optional hids with ⟨v, hv⟩ | rfl
    · exact le_of_unsignedList? hv
    · simp
  · obtain ⟨v, hv⟩ := of_required hchat
    exact isSigned_of_integer64? hv

theorem Bot.isWritable_of_ofToml? {t : Toml} {b : Bot} (h : Bot.ofToml? t = some b) :
    (b.cooldownSecs : Int) ≤ Word.maxSigned := by
  rw [Bot.ofToml?] at h
  split at h
  · cases h
  · simp only [Option.pure_def, Option.bind_eq_bind, Option.bind_eq_some_iff] at h
    obtain ⟨mark, -, secs, hsecs, auto, -, cron, -, hb⟩ := h
    obtain rfl := Option.some.inj hb
    exact le_of_optional hsecs (by decide)

theorem Media.isWritable_of_ofToml? {t : Toml} {m : Media} (h : Media.ofToml? t = some m) :
    ∀ n ∈ [m.maxDownloadBytes, m.maxUploadBytes, m.maxConcurrentDownloads, m.fetchTimeoutSecs,
      m.pipelineTimeoutSecs, m.sendAttempts], (n : Int) ≤ Word.maxSigned := by
  rw [Media.ofToml?] at h
  split at h
  · cases h
  · simp only [Option.pure_def, Option.bind_eq_bind, Option.bind_eq_some_iff] at h
    obtain ⟨_, hdownload, _, hupload, _, htasks, _, hfetch, _, hpipeline, _, hattempts, hm⟩ := h
    obtain rfl := Option.some.inj hm
    simp only [List.forall_mem_cons, List.not_mem_nil, false_implies, implies_true, and_true]
    exact ⟨le_of_optional hdownload (by decide), le_of_optional hupload (by decide),
      le_of_optional htasks (by decide), le_of_optional hfetch (by decide),
      le_of_optional hpipeline (by decide), le_of_optional hattempts (by decide)⟩

theorem isWritable_of_ofToml? {t : Toml} (h : Config.ofToml? t = some c) : c.IsWritable := by
  simp only [Config.ofToml?, Option.pure_def, Option.bind_eq_bind, Option.bind_eq_some_iff] at h
  obtain ⟨telegram, htelegram, bot, hbot, media, hmedia, dashboard, -, hc⟩ := h
  obtain rfl := Option.some.inj hc
  obtain ⟨_, htelegram⟩ := of_required htelegram
  obtain ⟨hids, hchat⟩ := Telegram.isWritable_of_ofToml? htelegram
  have hsecs : (bot.cooldownSecs : Int) ≤ Word.maxSigned := by
    rcases of_optional hbot with ⟨v, hv⟩ | rfl
    · exact Bot.isWritable_of_ofToml? hv
    · decide
  have hnumbers : ∀ n ∈ [media.maxDownloadBytes, media.maxUploadBytes,
      media.maxConcurrentDownloads, media.fetchTimeoutSecs, media.pipelineTimeoutSecs,
      media.sendAttempts], (n : Int) ≤ Word.maxSigned := by
    rcases of_optional hmedia with ⟨v, hv⟩ | rfl
    · exact Media.isWritable_of_ofToml? hv
    · decide
  refine ⟨fun n hn => ?_, hchat⟩
  rcases List.mem_append.1 hn with hn | hn
  · exact hids n hn
  · rcases List.mem_cons.1 hn with rfl | hn
    · exact hsecs
    · exact hnumbers n hn

/-- Settings that were read are sound, and can be written again. -/
theorem of_parse_eq_ok {text : String} (h : Config.parse text = .ok c) :
    c.fault? = none ∧ c.IsWritable := by
  rw [parse] at h
  split at h
  · cases h
  case h_2 c' hc' =>
    obtain ⟨t, -, ht⟩ := Option.bind_eq_some_iff.1 hc'
    rw [validate] at h
    split at h
    · cases h
    · obtain rfl := Except.ok.inj h
      exact ⟨‹_›, isWritable_of_ofToml? ht⟩

end Config

end MediaRelay
