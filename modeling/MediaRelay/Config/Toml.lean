import MediaRelay.Config.Basic
import MediaRelay.Toml.Reader
import MediaRelay.Toml.Writer
/-! Settings as a file. A group of settings is a table, or an array of its values in order. -/

namespace MediaRelay

namespace Toml

def string? : Toml → Option String
  | .string s => some s
  | _ => none

def boolean? : Toml → Option Bool
  | .boolean b => some b
  | _ => none

def integer64? : Toml → Option Int
  | .integer n => some n.val
  | _ => none

def unsigned64? : Toml → Option Nat
  | .integer n => if 0 ≤ n.val then some n.val.toNat else none
  | _ => none

def unsignedList? : Toml → Option (List Nat)
  | .array items => items.mapM unsigned64?
  | _ => none

/-- Whether a value can be a group of settings. A date can: it counts as a table that has none of them. -/
def isGroup : Toml → Bool
  | .table _ => true
  | .array _ => true
  | .moment => true
  | _ => false

/-- A setting of a group, by name from a table and by place from an array. -/
def setting? (place : Nat) (name : String) : Toml → Option Toml
  | .table entries => entries.lookup name
  | .array items => items[place]?
  | _ => none

def required {α : Type} (read : Toml → Option α) (place : Nat) (name : String) (t : Toml) : Option α :=
  (t.setting? place name).bind read

def optional {α : Type} (read : Toml → Option α) (place : Nat) (name : String) (default : α) (t : Toml) :
    Option α :=
  match t.setting? place name with
  | some v => read v
  | none => some default

end Toml

namespace Config

open Toml

def Telegram.ofToml? (t : Toml) : Option Telegram := do
  let botToken ← required string? 0 "bot_token" t
  let allowedUserIds ← optional unsignedList? 1 "allowed_user_ids" [] t
  let mediaCacheChatId ← required integer64? 2 "media_cache_chat_id" t
  return { botToken, allowedUserIds, mediaCacheChatId }

def Bot.ofToml? (t : Toml) : Option Bot :=
  if !t.isGroup then none
  else do
    let d : Bot := {}
    let commandPrefix ← optional string? 0 "command_prefix" d.commandPrefix t
    let cooldownSecs ← optional unsigned64? 1 "cooldown_secs" d.cooldownSecs t
    let autoMedia ← optional boolean? 2 "auto_media" d.autoMedia t
    let cooldownSweepCron ← optional string? 3 "cooldown_sweep_cron" d.cooldownSweepCron t
    return { commandPrefix, cooldownSecs, autoMedia, cooldownSweepCron }

def Media.ofToml? (t : Toml) : Option Media :=
  if !t.isGroup then none
  else do
    let d : Media := {}
    let maxDownloadBytes ← optional unsigned64? 0 "max_download_bytes" d.maxDownloadBytes t
    let maxUploadBytes ← optional unsigned64? 1 "max_upload_bytes" d.maxUploadBytes t
    let maxConcurrentDownloads ← optional unsigned64? 2 "max_concurrent_downloads" d.maxConcurrentDownloads t
    let fetchTimeoutSecs ← optional unsigned64? 3 "fetch_timeout_secs" d.fetchTimeoutSecs t
    let pipelineTimeoutSecs ← optional unsigned64? 4 "pipeline_timeout_secs" d.pipelineTimeoutSecs t
    let sendAttempts ← optional unsigned64? 5 "send_attempts" d.sendAttempts t
    return { maxDownloadBytes, maxUploadBytes, maxConcurrentDownloads, fetchTimeoutSecs, pipelineTimeoutSecs,
             sendAttempts }

def Dashboard.ofToml? (t : Toml) : Option Dashboard :=
  if !t.isGroup then none
  else do
    let d : Dashboard := {}
    let enabled ← optional boolean? 0 "enabled" d.enabled t
    let bind ← optional string? 1 "bind" d.bind t
    return { enabled, bind }

def ofToml? (t : Toml) : Option Config := do
  let telegram ← required Telegram.ofToml? 0 "telegram" t
  let bot ← optional Bot.ofToml? 1 "bot" {} t
  let media ← optional Media.ofToml? 2 "media" {} t
  let dashboard ← optional Dashboard.ofToml? 3 "dashboard" {} t
  return { telegram, bot, media, dashboard }

/-- Reads settings from the text of a file, and checks them. -/
def parse (text : String) : Except ConfigError Config :=
  match (Toml.parse? text).bind ofToml? with
  | none => .error .malformed
  | some c => c.validate

/-! ### Writing -/

def Telegram.lines (t : Telegram) : List (List Char) := [
  writeBinding "bot_token" (writeString t.botToken.toList),
  writeBinding "allowed_user_ids" (writeArray (t.allowedUserIds.map fun (n : Nat) => writeInteger n)),
  writeBinding "media_cache_chat_id" (writeInteger t.mediaCacheChatId)]

def Bot.lines (b : Bot) : List (List Char) := [
  writeBinding "command_prefix" (writeString b.commandPrefix.toList),
  writeBinding "cooldown_secs" (writeInteger b.cooldownSecs),
  writeBinding "auto_media" (writeBoolean b.autoMedia),
  writeBinding "cooldown_sweep_cron" (writeString b.cooldownSweepCron.toList)]

def Media.lines (m : Media) : List (List Char) := [
  writeBinding "max_download_bytes" (writeInteger m.maxDownloadBytes),
  writeBinding "max_upload_bytes" (writeInteger m.maxUploadBytes),
  writeBinding "max_concurrent_downloads" (writeInteger m.maxConcurrentDownloads),
  writeBinding "fetch_timeout_secs" (writeInteger m.fetchTimeoutSecs),
  writeBinding "pipeline_timeout_secs" (writeInteger m.pipelineTimeoutSecs),
  writeBinding "send_attempts" (writeInteger m.sendAttempts)]

def Dashboard.lines (d : Dashboard) : List (List Char) := [
  writeBinding "enabled" (writeBoolean d.enabled),
  writeBinding "bind" (writeString d.bind.toList)]

def unsignedNumbers (c : Config) : List Nat :=
  c.telegram.allowedUserIds ++ [c.bot.cooldownSecs, c.media.maxDownloadBytes, c.media.maxUploadBytes,
    c.media.maxConcurrentDownloads, c.media.fetchTimeoutSecs, c.media.pipelineTimeoutSecs, c.media.sendAttempts]

def writeChars (c : Config) : List Char :=
  writeTables [writeTable "telegram" c.telegram.lines, writeTable "bot" c.bot.lines,
    writeTable "media" c.media.lines, writeTable "dashboard" c.dashboard.lines]

/-- The text of a file with these settings. A number that a file cannot hold fails all. -/
def write (c : Config) : Except ConfigError String :=
  if c.unsignedNumbers.any fun n => (n : Int) > Word.maxSigned then .error .unwritable
  else .ok (String.ofList c.writeChars)

end Config
end MediaRelay
