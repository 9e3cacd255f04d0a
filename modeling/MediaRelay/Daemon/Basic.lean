import MediaRelay.Daemon.Failure
import MediaRelay.Shared
import MediaRelay.Telegram.Session
import MediaRelay.Telegram.Update
/-! The program as a whole. It runs the bot again and again: each run connects and begins with the settings as they
are in memory, and ends with a restart, before which they are read again, or for good. -/

namespace MediaRelay

open Telegram (BotApi Session)

def World.withMessenger {τ τ' : Type} (messenger : τ') (w : World τ) : World τ' :=
  { now := w.now, timer := w.timer, firedAt := w.firedAt, deadline := w.deadline, network := w.network
    client := w.client, requests := w.requests, messenger, calls := w.calls, late := w.late
    chance := w.chance, drawn := w.drawn }

structure Daemon (σ : Type) where
  shared : Shared (Session σ)
  run : BotRun (Session σ)
  world : World (Session σ)

namespace Daemon

variable {σ : Type} [BotApi σ]

/-- A run with these settings, if it can be made. -/
def runOf? (config : Config) : Option (BotRun (Session σ)) :=
  if permitted : config.media.maxConcurrentDownloads ≤ Downloader.maxPermits then
    some { config, permitted, platforms := Platform.defaults }
  else none

/-- Begins a run: a session of its own, a web client of its own, and a token of its own. A restart that was asked for
by then is taken up while the run connects: its token fires, and the run, which does not dispatch yet, goes on. -/
def launch (shared : Shared (Session σ)) (earlier : List Telegram.ApiRecord) (w : World σ) :
    Except Failure (Daemon σ) :=
  let config := shared.store.config
  match Telegram.connect config.telegram.mediaCacheChatId w.messenger with
  | .error e => .error (.connection e)
  | .ok session =>
    match runOf? config with
    | none => .error .permits
    | some run =>
      let session := { session.listen with calls := earlier }
      let w := w.withMessenger session
      let world := { w with client := { timeout := config.media.fetchTimeout }, firedAt := none, deadline := none }
      .ok {
        shared := { shared with connected := true, restartAsked := false }
        run
        world := if shared.restartAsked then world.fire else world }

/-- What is shared at first: the settings that were read and the commands that are always there. -/
def sharedOf (config : Config) (file : ConfigFile) : Shared (Session σ) :=
  let shared := Shared.ofConfig config file
  { shared with registry := shared.registry.registerAll Command.builtins }

def sweepJob : String := "cooldown-sweep"

def start (file : ConfigFile) (w : World σ) : Except Failure (Daemon σ) :=
  match file.load with
  | .error e => .error (.config file.path e)
  | .ok config =>
    if Cron.accepts config.bot.cooldownSweepCron then launch (sharedOf config file) [] w
    else .error (.schedule sweepJob)

def bot (d : Daemon σ) : BotState (Session σ) :=
  { registry := d.shared.registry, messages := d.shared.messages, world := d.world }

def withBot (d : Daemon σ) (s : BotState (Session σ)) : Daemon σ :=
  { d with shared := { d.shared with registry := s.registry, messages := s.messages }, world := s.world }

/-- The bot of the run. The program's clock began when it started. -/
def handler (d : Daemon σ) : BotRun (Session σ) := { d.run with uptime := d.world.now }

/-- The messages that updates bring to a run. -/
def messagesOf (d : Daemon σ) (us : List Telegram.Update) : List Message :=
  us.filterMap (·.message? d.run.config.telegram.allowedUserIds)

/-- Takes updates that come together, and handles the messages that they bring. -/
def receive (d : Daemon σ) (us : List Telegram.Update) : Daemon σ :=
  d.withBot (d.bot.handleAll d.handler (d.messagesOf us))

def stop (d : Daemon σ) : Daemon σ := { d with shared.connected := false, world := d.world.fire }

/-- Whether somebody waits for a restart to be asked for, which nobody does any more when the token has fired. -/
def isWatched (d : Daemon σ) : Bool := !d.world.stopped

/-- Takes up a restart, if one was asked for and somebody watches: the run ends. -/
def takeUpRestart? (d : Daemon σ) : Option (Daemon σ) :=
  if d.shared.restartAsked && d.isWatched then some { d.stop with shared.restartAsked := false } else none

/-- Ends the run of an interrupted process. The program ends with it, unless the token of the run had fired. -/
def interrupted? (d : Daemon σ) : Option (Daemon σ) := if d.isWatched then none else some d.stop

/-- Reads the settings again and begins a new run. -/
def renew (d : Daemon σ) : Except Failure (Daemon σ) :=
  launch d.shared.reloaded d.world.messenger.calls (d.world.withMessenger d.world.messenger.api)

end Daemon
end MediaRelay
