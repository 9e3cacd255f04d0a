import MediaRelay.Config.Basic
import MediaRelay.Json.Decode
/-! Settings as JSON. -/

namespace MediaRelay.Config

open Json

namespace Telegram

def decode : Decoder Telegram := fun depth j => do
  let ids := decodeList decodeUnsigned
  let found ← fields [.of "bot_token" decodeString .refused, .of "allowed_user_ids" ids .allowed,
    .of "media_cache_chat_id" decodeSigned .refused] depth j
  let botToken ← field found "bot_token" decodeString depth (.error .content)
  let allowedUserIds ← field found "allowed_user_ids" ids depth (.ok [])
  let mediaCacheChatId ← field found "media_cache_chat_id" decodeSigned depth (.error .content)
  return { botToken, allowedUserIds, mediaCacheChatId }

def toJson (t : Telegram) : Json := .record [
  ("bot_token", .str t.botToken), ("allowed_user_ids", .array (t.allowedUserIds.map .nat)),
  ("media_cache_chat_id", .int t.mediaCacheChatId)]

end Telegram

namespace Bot

def decode : Decoder Bot := fun depth j => do
  let d : Bot := {}
  let found ← fields [.of "command_prefix" decodeString .allowed, .of "cooldown_secs" decodeUnsigned .allowed,
    .of "auto_media" decodeBool .allowed, .of "cooldown_sweep_cron" decodeString .allowed] depth j
  let commandPrefix ← field found "command_prefix" decodeString depth (.ok d.commandPrefix)
  let cooldownSecs ← field found "cooldown_secs" decodeUnsigned depth (.ok d.cooldownSecs)
  let autoMedia ← field found "auto_media" decodeBool depth (.ok d.autoMedia)
  let cooldownSweepCron ← field found "cooldown_sweep_cron" decodeString depth (.ok d.cooldownSweepCron)
  return { commandPrefix, cooldownSecs, autoMedia, cooldownSweepCron }

def toJson (b : Bot) : Json := .record [
  ("command_prefix", .str b.commandPrefix), ("cooldown_secs", .nat b.cooldownSecs),
  ("auto_media", .bool b.autoMedia), ("cooldown_sweep_cron", .str b.cooldownSweepCron)]

end Bot

namespace Media

def decode : Decoder Media := fun depth j => do
  let d : Media := {}
  let n := decodeUnsigned
  let found ← fields [.of "max_download_bytes" n .allowed, .of "max_upload_bytes" n .allowed,
    .of "max_concurrent_downloads" n .allowed, .of "fetch_timeout_secs" n .allowed,
    .of "pipeline_timeout_secs" n .allowed, .of "send_attempts" n .allowed] depth j
  let maxDownloadBytes ← field found "max_download_bytes" n depth (.ok d.maxDownloadBytes)
  let maxUploadBytes ← field found "max_upload_bytes" n depth (.ok d.maxUploadBytes)
  let maxConcurrentDownloads ← field found "max_concurrent_downloads" n depth (.ok d.maxConcurrentDownloads)
  let fetchTimeoutSecs ← field found "fetch_timeout_secs" n depth (.ok d.fetchTimeoutSecs)
  let pipelineTimeoutSecs ← field found "pipeline_timeout_secs" n depth (.ok d.pipelineTimeoutSecs)
  let sendAttempts ← field found "send_attempts" n depth (.ok d.sendAttempts)
  return { maxDownloadBytes, maxUploadBytes, maxConcurrentDownloads, fetchTimeoutSecs, pipelineTimeoutSecs,
           sendAttempts }

def toJson (m : Media) : Json := .record [
  ("max_download_bytes", .nat m.maxDownloadBytes), ("max_upload_bytes", .nat m.maxUploadBytes),
  ("max_concurrent_downloads", .nat m.maxConcurrentDownloads),
  ("fetch_timeout_secs", .nat m.fetchTimeoutSecs), ("pipeline_timeout_secs", .nat m.pipelineTimeoutSecs),
  ("send_attempts", .nat m.sendAttempts)]

end Media

namespace Dashboard

def decode : Decoder Dashboard := fun depth j => do
  let d : Dashboard := {}
  let found ← fields [.of "enabled" decodeBool .allowed, .of "bind" decodeString .allowed] depth j
  let enabled ← field found "enabled" decodeBool depth (.ok d.enabled)
  let bind ← field found "bind" decodeString depth (.ok d.bind)
  return { enabled, bind }

def toJson (d : Dashboard) : Json := .record [("enabled", .bool d.enabled), ("bind", .str d.bind)]

end Dashboard

def decode : Decoder Config := fun depth j => do
  let found ← fields [.of "telegram" Telegram.decode .refused, .of "bot" Bot.decode .allowed,
    .of "media" Media.decode .allowed, .of "dashboard" Dashboard.decode .allowed] depth j
  let telegram ← field found "telegram" Telegram.decode depth (.error .content)
  let bot ← field found "bot" Bot.decode depth (.ok {})
  let media ← field found "media" Media.decode depth (.ok {})
  let dashboard ← field found "dashboard" Dashboard.decode depth (.ok {})
  return { telegram, bot, media, dashboard }

def toJson (c : Config) : Json := .record [
  ("telegram", c.telegram.toJson), ("bot", c.bot.toJson), ("media", c.media.toJson),
  ("dashboard", c.dashboard.toJson)]

end MediaRelay.Config
