import MediaRelay.Error
import MediaRelay.Text.Blank
/-! The settings of the relay, what makes them sound, and how they are shown without their secret. -/

namespace MediaRelay

namespace Config

structure Telegram where
  botToken : String
  /-- who may talk to the bot; everyone, if empty -/
  allowedUserIds : List Nat := []
  /-- the chat into which media are uploaded before they are sent -/
  mediaCacheChatId : Int
deriving DecidableEq, Repr, Inhabited

structure Bot where
  commandPrefix : String := "!"
  cooldownSecs : Nat := 3
  /-- whether links alone, without a command, are followed -/
  autoMedia : Bool := true
  cooldownSweepCron : String := "0 */5 * * * *"
deriving DecidableEq, Repr, Inhabited

structure Media where
  maxDownloadBytes : Nat := 25000000
  maxUploadBytes : Nat := 25000000
  maxConcurrentDownloads : Nat := 4
  fetchTimeoutSecs : Nat := 30
  pipelineTimeoutSecs : Nat := 300
  sendAttempts : Nat := 10
deriving DecidableEq, Repr, Inhabited

structure Dashboard where
  enabled : Bool := true
  bind : String := "127.0.0.1:8080"
deriving DecidableEq, Repr, Inhabited

end Config

structure Config where
  telegram : Config.Telegram
  bot : Config.Bot := {}
  media : Config.Media := {}
  dashboard : Config.Dashboard := {}
deriving DecidableEq, Repr, Inhabited

inductive ConfigError where
  | unreadable (path : String)
  | malformed
  | blankToken
  | emptyPrefix
  | noAttempts
  | noDownloads
  /-- a number is too large for the file -/
  | unwritable
deriving DecidableEq, Repr, Inhabited

def ConfigError.message : ConfigError → String
  | .unreadable path => s!"Failed to read config file: {path}"
  | .malformed => "Failed to parse config file"
  | .blankToken => "telegram.bot_token must not be empty"
  | .emptyPrefix => "bot.command_prefix must not be empty"
  | .noAttempts => "media.send_attempts must be at least 1"
  | .noDownloads => "media.max_concurrent_downloads must be at least 1"
  | .unwritable => "Failed to serialize config"

def isBlankText (s : String) : Bool := (Text.trim s.toList).isEmpty

namespace Config

def Bot.cooldown (b : Bot) : Nanos := b.cooldownSecs * nanosPerSecond

def Media.fetchTimeout (m : Media) : Nanos := m.fetchTimeoutSecs * nanosPerSecond

def Media.pipelineTimeout (m : Media) : Nanos := m.pipelineTimeoutSecs * nanosPerSecond

/-- The first thing that is wrong with settings, if anything is. -/
def fault? (c : Config) : Option ConfigError :=
  if isBlankText c.telegram.botToken then some .blankToken
  else if c.bot.commandPrefix.isEmpty then some .emptyPrefix
  else if c.media.sendAttempts = 0 then some .noAttempts
  else if c.media.maxConcurrentDownloads = 0 then some .noDownloads
  else none

def validate (c : Config) : Except ConfigError Config :=
  match c.fault? with
  | some e => .error e
  | none => .ok c

/-- What stands for a token where it is not shown. -/
def redactionMark : String := "********"

def redactedToken (token : String) : String := if token.isEmpty then token else redactionMark

def redacted (c : Config) : Config :=
  { c with telegram.botToken := redactedToken c.telegram.botToken }

def withToken (token : String) (c : Config) : Config := { c with telegram.botToken := token }

end Config
end MediaRelay
