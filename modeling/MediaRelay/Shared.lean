import MediaRelay.Command.Registry
import MediaRelay.Config.Store
import MediaRelay.Log.Buffer
/-! What outlives a run of the bot: the settings, the commands with their cooldowns, the counters, the log, and
whether a restart was asked for. -/

namespace MediaRelay

structure Shared (τ : Type) where
  store : ConfigStore
  registry : CommandRegistry τ
  messages : Nat := 0
  connected : Bool := false
  logs : LogBuffer := { capacity := LogBuffer.defaultCapacity }
  /-- a restart was asked for and has not been taken up -/
  restartAsked : Bool := false
  startedAt : String := ""

namespace Shared

variable {τ : Type}

/-- What a program starts with. How long a success makes its user wait is settled here once. -/
def ofConfig (config : Config) (file : ConfigFile) : Shared τ :=
  { store := { config, file }, registry := { cooldown := config.bot.cooldown } }

/-- Reads the settings again. Where the file has none that are sound, those in memory stay. -/
def reloaded (s : Shared τ) : Shared τ :=
  match s.store.reload with
  | .ok store => { s with store }
  | .error _ => s

end Shared
end MediaRelay
