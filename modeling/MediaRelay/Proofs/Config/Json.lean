import MediaRelay.Config.Json
import MediaRelay.Proofs.Config.Toml
import MediaRelay.Proofs.Json.Decode
import MediaRelay.Proofs.Json.Text
/-! Settings that are shown as JSON are read back field for field, whatever texts and numbers they
hold. -/

namespace MediaRelay.Config

open Json

/-! ### What a body can bring -/

theorem chat_of_decode {depth : ℕ} {j : Json} {c : Config}
    (h : Config.decode depth j = .ok c) :
    Word.minSigned ≤ c.telegram.mediaCacheChatId ∧
      c.telegram.mediaCacheChatId ≤ Word.maxSigned := by
  simp only [Config.decode, except_bind_eq_ok] at h
  obtain ⟨found, -, telegram, htelegram, bot, -, media, -, dashboard, -, hc⟩ := h
  obtain rfl := Except.ok.inj hc
  rcases of_field htelegram with ⟨j, hj⟩ | hj
  · simp only [Telegram.decode, except_bind_eq_ok] at hj
    obtain ⟨_, -, _, -, _, -, chat, hchat, hg⟩ := hj
    obtain rfl := Except.ok.inj hg
    rcases of_field hchat with ⟨j, hj⟩ | hj
    · exact of_decodeInt hj
    · cases hj
  · cases hj

/-! ### Reading back -/

variable {c : Config}

theorem IsWritable.le_maxUnsigned (h : c.IsWritable) {n : ℕ} (hn : n ∈ c.unsignedNumbers) :
    n ≤ Word.maxUnsigned := by
  have hle : (n : Int) ≤ Word.maxSigned := h.unsigned n hn
  have hmax : Word.maxSigned ≤ (Word.maxUnsigned : Int) := by decide
  omega

/-! Each group is read back setting by setting. -/

theorem IsWritable.decode_telegram (h : c.IsWritable) (depth : ℕ) (hdepth : depth + 1 < maxDepth) :
    Telegram.decode depth c.telegram.toJson = .ok c.telegram := by
  have htoken : decodeString (depth + 1) (.str c.telegram.botToken) = .ok c.telegram.botToken := rfl
  have hids : decodeList decodeUnsigned (depth + 1) (.array (c.telegram.allowedUserIds.map .nat)) =
      .ok c.telegram.allowedUserIds := by
    apply decodeList_map hdepth
    intro n hn
    exact decodeUnsigned_nat (h.le_maxUnsigned (List.mem_append_left _ hn)) _
  have hchat : decodeSigned (depth + 1) (.int c.telegram.mediaCacheChatId) =
      .ok c.telegram.mediaCacheChatId := decodeSigned_int h.chat _
  have hfields := fields_record depth (Nat.lt_of_succ_lt hdepth) (by decide)
    (.cons (Slot.fits_of htoken "bot_token" .refused)
      (.cons (Slot.fits_of hids "allowed_user_ids" .allowed)
        (.cons (Slot.fits_of hchat "media_cache_chat_id" .refused) .nil)))
  refine except_bind_eq_ok.2 ⟨_, hfields, ?_⟩
  refine except_bind_eq_ok.2 ⟨_, field_eq_ok rfl htoken, ?_⟩
  refine except_bind_eq_ok.2 ⟨_, field_eq_ok rfl hids, ?_⟩
  exact except_bind_eq_ok.2 ⟨_, field_eq_ok rfl hchat, rfl⟩

theorem IsWritable.decode_bot (h : c.IsWritable) (depth : ℕ) (hdepth : depth < maxDepth) :
    Bot.decode depth c.bot.toJson = .ok c.bot := by
  have hmark : decodeString (depth + 1) (.str c.bot.commandPrefix) = .ok c.bot.commandPrefix := rfl
  have hsecs : decodeUnsigned (depth + 1) (.nat c.bot.cooldownSecs) = .ok c.bot.cooldownSecs :=
    decodeUnsigned_nat (h.le_maxUnsigned (by simp [unsignedNumbers])) _
  have hauto : decodeBool (depth + 1) (.bool c.bot.autoMedia) = .ok c.bot.autoMedia := rfl
  have hcron : decodeString (depth + 1) (.str c.bot.cooldownSweepCron) =
      .ok c.bot.cooldownSweepCron := rfl
  have hfields := fields_record depth hdepth (by decide)
    (.cons (Slot.fits_of hmark "command_prefix" .allowed)
      (.cons (Slot.fits_of hsecs "cooldown_secs" .allowed)
        (.cons (Slot.fits_of hauto "auto_media" .allowed)
          (.cons (Slot.fits_of hcron "cooldown_sweep_cron" .allowed) .nil))))
  refine except_bind_eq_ok.2 ⟨_, hfields, ?_⟩
  refine except_bind_eq_ok.2 ⟨_, field_eq_ok rfl hmark, ?_⟩
  refine except_bind_eq_ok.2 ⟨_, field_eq_ok rfl hsecs, ?_⟩
  refine except_bind_eq_ok.2 ⟨_, field_eq_ok rfl hauto, ?_⟩
  exact except_bind_eq_ok.2 ⟨_, field_eq_ok rfl hcron, rfl⟩

theorem IsWritable.decode_media (h : c.IsWritable) (depth : ℕ) (hdepth : depth < maxDepth) :
    Media.decode depth c.media.toJson = .ok c.media := by
  have hnumber : ∀ n ∈ c.unsignedNumbers, decodeUnsigned (depth + 1) (.nat n) = .ok n :=
    fun n hn => decodeUnsigned_nat (h.le_maxUnsigned hn) _
  have hdownload := hnumber c.media.maxDownloadBytes (by simp [unsignedNumbers])
  have hupload := hnumber c.media.maxUploadBytes (by simp [unsignedNumbers])
  have htasks := hnumber c.media.maxConcurrentDownloads (by simp [unsignedNumbers])
  have hfetch := hnumber c.media.fetchTimeoutSecs (by simp [unsignedNumbers])
  have hpipeline := hnumber c.media.pipelineTimeoutSecs (by simp [unsignedNumbers])
  have hattempts := hnumber c.media.sendAttempts (by simp [unsignedNumbers])
  have hfields := fields_record depth hdepth (by decide)
    (.cons (Slot.fits_of hdownload "max_download_bytes" .allowed)
      (.cons (Slot.fits_of hupload "max_upload_bytes" .allowed)
        (.cons (Slot.fits_of htasks "max_concurrent_downloads" .allowed)
          (.cons (Slot.fits_of hfetch "fetch_timeout_secs" .allowed)
            (.cons (Slot.fits_of hpipeline "pipeline_timeout_secs" .allowed)
              (.cons (Slot.fits_of hattempts "send_attempts" .allowed) .nil))))))
  refine except_bind_eq_ok.2 ⟨_, hfields, ?_⟩
  refine except_bind_eq_ok.2 ⟨_, field_eq_ok rfl hdownload, ?_⟩
  refine except_bind_eq_ok.2 ⟨_, field_eq_ok rfl hupload, ?_⟩
  refine except_bind_eq_ok.2 ⟨_, field_eq_ok rfl htasks, ?_⟩
  refine except_bind_eq_ok.2 ⟨_, field_eq_ok rfl hfetch, ?_⟩
  refine except_bind_eq_ok.2 ⟨_, field_eq_ok rfl hpipeline, ?_⟩
  exact except_bind_eq_ok.2 ⟨_, field_eq_ok rfl hattempts, rfl⟩

theorem Dashboard.decode_toJson (d : Dashboard) (depth : ℕ) (hdepth : depth < maxDepth) :
    Dashboard.decode depth d.toJson = .ok d := by
  have henabled : decodeBool (depth + 1) (.bool d.enabled) = .ok d.enabled := rfl
  have hbind : decodeString (depth + 1) (.str d.bind) = .ok d.bind := rfl
  have hfields := fields_record depth hdepth (by decide)
    (.cons (Slot.fits_of henabled "enabled" .allowed)
      (.cons (Slot.fits_of hbind "bind" .allowed) .nil))
  refine except_bind_eq_ok.2 ⟨_, hfields, ?_⟩
  refine except_bind_eq_ok.2 ⟨_, field_eq_ok rfl henabled, ?_⟩
  exact except_bind_eq_ok.2 ⟨_, field_eq_ok rfl hbind, rfl⟩

/-- Settings whose numbers fit are decoded from their tree. -/
theorem IsWritable.decode_toJson (h : c.IsWritable) (depth : ℕ) (hdepth : depth + 2 < maxDepth) :
    Config.decode depth c.toJson = .ok c := by
  have htelegram := h.decode_telegram (depth + 1) hdepth
  have hbot := h.decode_bot (depth + 1) (by omega)
  have hmedia := h.decode_media (depth + 1) (by omega)
  have hdashboard := c.dashboard.decode_toJson (depth + 1) (by omega)
  have hfields := fields_record depth (by omega) (by decide)
    (.cons (Slot.fits_of htelegram "telegram" .refused)
      (.cons (Slot.fits_of hbot "bot" .allowed)
        (.cons (Slot.fits_of hmedia "media" .allowed)
          (.cons (Slot.fits_of hdashboard "dashboard" .allowed) .nil))))
  refine except_bind_eq_ok.2 ⟨_, hfields, ?_⟩
  refine except_bind_eq_ok.2 ⟨_, field_eq_ok rfl htelegram, ?_⟩
  refine except_bind_eq_ok.2 ⟨_, field_eq_ok rfl hbot, ?_⟩
  refine except_bind_eq_ok.2 ⟨_, field_eq_ok rfl hmedia, ?_⟩
  exact except_bind_eq_ok.2 ⟨_, field_eq_ok rfl hdashboard, rfl⟩

/-! ### The text -/

theorem isPlainItems_map {α : Type} {enc : α → Json} {as : List α}
    (h : ∀ a ∈ as, isPlain (enc a) = true) : isPlainItems (as.map enc) = true := by
  induction as with
  | nil => rfl
  | cons a as ih =>
    rw [List.map_cons, isPlainItems, h a (by simp), ih fun b hb => h b (.tail a hb)]
    rfl

theorem IsWritable.isPlain_nat (h : c.IsWritable) {n : ℕ} (hn : n ∈ c.unsignedNumbers) :
    isPlain (.nat n) = true :=
  decide_eq_true (h.le_maxUnsigned hn)

theorem IsWritable.isPlain_chat (h : c.IsWritable) :
    isPlain (.int c.telegram.mediaCacheChatId) = true := by
  have hle : c.telegram.mediaCacheChatId.natAbs ≤ Word.maxUnsigned := by
    obtain ⟨hlo, hhi⟩ := h.chat
    simp only [Word.minSigned, Word.maxSigned, Word.maxUnsigned] at hlo hhi ⊢
    omega
  exact decide_eq_true hle

theorem IsWritable.isPlain_toJson (h : c.IsWritable) : isPlain c.toJson = true := by
  have hids : isPlainItems (c.telegram.allowedUserIds.map .nat) = true :=
    isPlainItems_map fun n hn => h.isPlain_nat (List.mem_append_left _ hn)
  have hnumber : ∀ n ∈ c.unsignedNumbers, isPlain (.nat n) = true := fun n hn => h.isPlain_nat hn
  simp only [unsignedNumbers, List.mem_append, List.mem_cons] at hnumber
  simp [toJson, Telegram.toJson, Bot.toJson, Media.toJson, Dashboard.toJson, record, str, isPlain,
    isPlainMembers, hids, h.isPlain_chat, hnumber]

/-- The text of settings whose numbers fit is decoded to these settings. -/
theorem IsWritable.decode_writeText (h : c.IsWritable) :
    let d := readBytes (writeText c.toJson).toUTF8
    decodeDocument Config.decode d.value d.trailing = .ok c := by
  rw [readBytes_writeText h.isPlain_toJson]
  dsimp only
  rw [decodeDocument, h.decode_toJson 0 (by decide)]
  rfl

end MediaRelay.Config
