import MediaRelay.Proofs.Bot.Confined
import MediaRelay.Proofs.Dashboard.Settings
import MediaRelay.Proofs.Text.Chunk
/-! Settings over restarts. A run has the settings that were in memory when it began, and in it a
success makes its user wait. How long that takes was settled when the program started: the registry
outlives all runs, and with it the length of the wait. A run whose settings name another one does
not get it. -/

namespace MediaRelay

open Telegram (BotApi Session)

variable {τ σ : Type}

/-! ### What outlives a run -/

theorem Dashboard.handle_registry (m : Moment) (q : Request) (s : Shared τ) :
    (handle m q s).2.registry = s.registry := by
  rw [handle]
  split
  · rfl
  case h_2 route =>
    split
    · rfl
    case h_2 action =>
      dsimp only
      unfold perform
      split
      case h_5 =>
        rcases saveConfig_cases q s with ⟨-, hsame⟩ | ⟨-, -, posted, hsaved⟩
        · rw [hsame]
        · have hregistry := congrArg Shared.registry hsaved.rest
          exact hregistry
      all_goals rfl

theorem registry_reloaded (s : Shared τ) : s.reloaded.registry = s.registry := by
  rcases SettingsEvent.reloaded_cases s with ⟨c, -, hs⟩ | ⟨-, hs⟩ <;> rw [hs]

theorem SettingsEvent.registry_apply (s : Shared τ) (e : SettingsEvent) :
    (apply s e).registry = s.registry := by
  cases e with
  | request m q => exact Dashboard.handle_registry m q s
  | rewrite content isWritable => rfl
  | reload => exact registry_reloaded s

/-! ### Successes -/

namespace BotState

/-- Somebody waits, from now on, for so long before the command of a name runs again. -/
def ArmsFor (s : BotState τ) (user : Int) (name : String) (time : Nanos) : Prop :=
  s.registry.cooldowns.expiry? (Cooldowns.keyOf user name) = some (s.world.now + time)

theorem ArmsFor.unique {s : BotState τ} {user : Int} {name : String} {time time' : Nanos}
    (h : s.ArmsFor user name time) : s.ArmsFor user name time' ↔ time' = time := by
  constructor
  · intro h'
    exact Nat.add_left_cancel (Option.some.inj (h'.symm.trans h))
  · rintro rfl
    exact h

variable [Transport τ] {b : BotRun τ} {m : Message} {i : Invocation} {s t : BotState τ}
  {ms : List Message}

/-- Of messages that come together, one calls a command that succeeds. It is handled in the state
that those before it leave. -/
structure SucceedsAmong (b : BotRun τ) (ms : List Message) (s : BotState τ) (m : Message)
    (i : Invocation) (t : BotState τ) : Prop where
  came : ∃ before after, ms = before ++ m :: after ∧ t = handleAll b before s
  heard : t.ignores m = false
  call : parseInvocation m.text b.config.bot.commandPrefix = some i
  success : (carried b m i t.counted s).1 = .done (.ok ())

/-- A success makes its user wait for as long as the registry says. -/
theorem SucceedsAmong.armsFor (h : SucceedsAmong b ms s m i t) :
    (handleFrom b m t s).ArmsFor m.user i.name t.registry.cooldown := by
  have hne (e : CommandError) : (carried b m i t.counted s).1 ≠ .done (.error e) := by
    rw [h.success]
    intro h
    cases h
  have hregistry := (registry_carried b m i t.counted s).resolve_right fun hno => hno.1 h.success
  rw [handleFrom_of_command h.heard h.call, runCommand_of_ne_error hne, hregistry.2]
  generalize (carried b m i t.counted s).2.2 = w
  rw [ArmsFor, ← keyOf_lowerText]
  exact Cooldowns.expiry?_arm_self _ _ _

end BotState

/-! ### Runs -/

namespace Daemon

variable [BotApi σ] {file : ConfigFile} {w : World σ} {d d' : Daemon σ} {c c₀ : Config}
  {r : Option Config}

/-- What can become of a program that starts with a file: its state, and the settings with which the
run that is under way began, if one is. -/
inductive Reached (file : ConfigFile) (w : World σ) : Option Config → Daemon σ → Prop
  | start {c : Config} {d : Daemon σ} (hload : file.load = .ok c) (h : start file w = .ok d) :
    Reached file w (some c) d
  /-- updates come -/
  | receives {c : Config} {d : Daemon σ} (us : List Telegram.Update)
    (h : Reached file w (some c) d) : Reached file w (some c) (d.receive us)
  /-- settings are posted, a restart is asked for, somebody else writes the file, or the settings
  are read again, which may be at any time -/
  | changes {r : Option Config} {d : Daemon σ} (e : SettingsEvent) (h : Reached file w r d) :
    Reached file w r { d with shared := e.apply d.shared }
  /-- waits that are over are cleared away -/
  | sweeps {r : Option Config} {d : Daemon σ} (h : Reached file w r d) :
    Reached file w r { d with shared.registry := d.shared.registry.clean d.world.now }
  | waits {r : Option Config} {d : Daemon σ} (time : Nanos) (h : Reached file w r d) :
    Reached file w r { d with world.now := d.world.now + time }
  /-- the run ends, with a restart or because the process is interrupted -/
  | ends {c : Config} {d d' : Daemon σ} (h : Reached file w (some c) d)
    (hend : d.takeUpRestart? = some d' ∨ d.interrupted? = some d') : Reached file w none d'
  /-- the settings are read again, and a run begins with those that are in memory then -/
  | begins {d d' : Daemon σ} (h : Reached file w none d) (hrenew : d.renew = .ok d') :
    Reached file w (some d.shared.reloaded.store.config) d'

structure Keeps (c₀ : Config) (r : Option Config) (d : Daemon σ) : Prop where
  run : ∀ c, r = some c → runOf? c = some d.run
  known : d.bot.KnowsBuiltins
  cooldown : d.shared.registry.cooldown = c₀.bot.cooldown

theorem of_launch_eq_ok {shared : Shared (Session σ)} {earlier : List Telegram.ApiRecord}
    (h : launch shared earlier w = .ok d) :
    runOf? shared.store.config = some d.run ∧ d.shared.registry = shared.registry := by
  rw [launch] at h
  dsimp only at h
  split at h
  · cases h
  · split at h
    · cases h
    · next hrun =>
      obtain rfl := Except.ok.inj h
      exact ⟨hrun, rfl⟩

theorem keeps_start (hload : file.load = .ok c) (h : start file w = .ok d) :
    Keeps c (some c) d := by
  rw [start, hload] at h
  dsimp only at h
  split_ifs at h
  obtain ⟨hrun, hregistry⟩ := of_launch_eq_ok h
  refine ⟨?_, ?_, ?_⟩
  · rintro _ ⟨⟩
    exact hrun
  · intro entry hentry
    rw [bot, hregistry] at hentry
    rcases CommandRegistry.mem_commands_registerAll hentry with hknown | hnone
    · exact hknown
    · cases hnone
  · rw [hregistry]
    rfl

omit [BotApi σ] in
theorem platforms_of_runOf? {b : BotRun (Session σ)} (h : runOf? c = some b) :
    b.platforms = Platform.defaults := by
  rw [runOf?] at h
  split_ifs at h
  obtain rfl := Option.some.inj h
  rfl

theorem Keeps.isOffline (h : Keeps c₀ (some c) d) : ∀ q ∈ d.handler.platforms, q.IsOffline := by
  rw [handler, platforms_of_runOf? (h.run c rfl)]
  exact fun q => Platform.isOffline_of_mem_defaults

theorem Keeps.receives (h : Keeps c₀ (some c) d) (us : List Telegram.Update) :
    Keeps c₀ (some c) (d.receive us) := by
  have hwithin := BotState.staysWithin_handleAll h.isOffline h.known (d.messagesOf us)
  rw [receive]
  refine ⟨h.run, ?_, hwithin.wait.trans h.cooldown⟩
  intro entry hentry
  exact h.known entry (hwithin.commands ▸ hentry)

theorem Keeps.of_registry_eq (h : Keeps c₀ r d)
    (hregistry : d'.shared.registry = d.shared.registry) {r' : Option Config}
    (hrun : ∀ c, r' = some c → runOf? c = some d'.run) : Keeps c₀ r' d' where
  run := hrun
  known := by
    intro entry hentry
    rw [bot, hregistry] at hentry
    exact h.known entry hentry
  cooldown := by rw [hregistry, h.cooldown]

omit [BotApi σ] in
theorem registry_of_end (h : d.takeUpRestart? = some d' ∨ d.interrupted? = some d') :
    d'.shared.registry = d.shared.registry := by
  rcases h with h | h
  · rw [takeUpRestart?] at h
    split_ifs at h
    obtain rfl := Option.some.inj h
    rfl
  · rw [interrupted?] at h
    split_ifs at h
    obtain rfl := Option.some.inj h
    rfl

theorem Reached.keeps (hload : file.load = .ok c₀) (h : Reached file w r d) : Keeps c₀ r d := by
  induction h with
  | start hload' h =>
    obtain rfl := Except.ok.inj (hload.symm.trans hload')
    exact keeps_start hload h
  | receives us _ ih => exact ih.receives us
  | changes e _ ih => exact ih.of_registry_eq (e.registry_apply _) ih.run
  | sweeps _ ih => exact ⟨ih.run, ih.known, ih.cooldown⟩
  | waits time _ ih => exact ⟨ih.run, ih.known, ih.cooldown⟩
  | ends _ hend ih =>
    -- no run is under way now, so that only the registry is left to speak of
    refine ih.of_registry_eq (registry_of_end hend) ?_
    rintro _ ⟨⟩
  | begins _ hrenew ih =>
    obtain ⟨hrun, hregistry⟩ := of_launch_eq_ok hrenew
    refine ih.of_registry_eq (hregistry.trans (registry_reloaded _)) ?_
    rintro _ ⟨⟩
    exact hrun

/-- Whatever state a run has come to, its messages are confined: the platforms and the commands are
always those that it was built with. -/
theorem Reached.confines (hload : file.load = .ok c₀) (h : Reached file w (some c) d) (m : Message)
    (t : BotState (Session σ)) :
    BotState.IsConfined d.handler m t d.bot (BotState.handleFrom d.handler m t d.bot) :=
  BotState.isConfined_of_isOffline (h.keeps hload).isOffline (h.keeps hload).known

/-- Every run has the settings with which it began, but for one: a success makes its user wait for
as long as the settings said with which the program started, and that is as long as those of the run
say exactly where the two agree. -/
theorem armsFor_iff (hload : file.load = .ok c₀) (h : Reached file w (some c) d) :
    runOf? c = some d.run ∧
      ∀ us m i t, BotState.SucceedsAmong d.handler (d.messagesOf us) d.bot m i t →
        (BotState.handleFrom d.handler m t d.bot).ArmsFor m.user i.name c₀.bot.cooldown ∧
          ((BotState.handleFrom d.handler m t d.bot).ArmsFor m.user i.name c.bot.cooldown ↔
            c.bot.cooldown = c₀.bot.cooldown) := by
  have hkept := h.keeps hload
  refine ⟨hkept.run c rfl, fun us m i t hsucceeds => ?_⟩
  obtain ⟨before, after, -, ht⟩ := hsucceeds.came
  have hcooldown : t.registry.cooldown = c₀.bot.cooldown := by
    rw [ht, (BotState.staysWithin_handleAll hkept.isOffline hkept.known before).wait]
    exact hkept.cooldown
  have harms := hcooldown ▸ hsucceeds.armsFor
  exact ⟨harms, harms.unique⟩

/-! ### A cooldown that is changed -/

namespace Patience

open Telegram (Fussy)

def quickConfig : Config where
  telegram := { botToken := "1:x", mediaCacheChatId := -1 }
  bot := { cooldownSecs := 0 }

def slowConfig : Config := { quickConfig with bot.cooldownSecs := 3600 }

theorem isSound_quickConfig : quickConfig.IsSound := ⟨by decide, ⟨by decide, by decide⟩⟩

theorem isSound_slowConfig : slowConfig.IsSound := ⟨by decide, ⟨by decide, by decide⟩⟩

def quickFile : ConfigFile := ConfigFile.holding { path := "config.toml" } quickConfig

def world : World Fussy := Fussy.world.withMessenger ⟨0⟩

def begun (shared : Shared (Session Fussy)) (w : World Fussy)
    (permitted : shared.store.config.media.maxConcurrentDownloads ≤ Downloader.maxPermits) :
    Daemon Fussy where
  shared := { shared with connected := true }
  run := { config := shared.store.config, permitted, platforms := Platform.defaults }
  world :=
    { w.withMessenger
        { api := ⟨0⟩, selfId := 1
          cacheChat := shared.store.config.telegram.mediaCacheChatId } with
      client := { timeout := shared.store.config.media.fetchTimeout }, firedAt := none
      deadline := none }

def restartRequest : Dashboard.Request where
  method := "POST"
  target := "/api/restart"

def started : Daemon Fussy := begun (sharedOf quickConfig quickFile) world (by decide)

/-- A restart is asked for when the file has a cooldown. -/
def changed : Daemon Fussy :=
  { started with
    shared :=
      { started.shared with store.file := quickFile.holding slowConfig, restartAsked := true } }

theorem reached_changed : Reached quickFile world (some quickConfig) changed := by
  have hload : quickFile.load = .ok quickConfig := ConfigFile.load_holding isSound_quickConfig _
  have hcron : Cron.accepts quickConfig.bot.cooldownSweepCron = true := by decide +kernel
  have hstart : start quickFile world = .ok started := by
    rw [start, hload]
    dsimp only
    rw [if_pos hcron]
    rfl
  exact ((Reached.start hload hstart).changes (.rewrite (some slowConfig.bytes) true)).changes
    (.request ⟨0, 0⟩ restartRequest)

def ended : Daemon Fussy := { changed.stop with shared.restartAsked := false }

def renewed : Daemon Fussy :=
  begun { ended.shared with store.config := slowConfig }
    (ended.world.withMessenger ended.world.messenger.api) (by decide)

theorem reached_renewed : Reached quickFile world (some slowConfig) renewed := by
  have hload : ended.shared.store.reload =
      .ok { ended.shared.store with config := slowConfig } := by
    rw [ConfigStore.reload]
    change (ConfigFile.load (quickFile.holding slowConfig)).map _ = _
    rw [ConfigFile.load_holding isSound_slowConfig]
    rfl
  have hreloaded : ended.shared.reloaded = { ended.shared with store.config := slowConfig } := by
    rw [Shared.reloaded, hload]
  have hrenew : ended.renew = .ok renewed := by
    rw [renew, hreloaded]
    rfl
  have hend : changed.takeUpRestart? = some ended := rfl
  have h := (reached_changed.ends (.inl hend)).begins hrenew
  rwa [hreloaded] at h

def ping : Telegram.Update := { sender := some 5, chat := 42, id := 1, text := some "!ping" }

theorem sendMessage_eq_done (o : Outbox) {text : String}
    (hfits : text.utf8ByteSize ≤ Telegram.messageLimit) {w : World (Session Fussy)}
    (hw : w.stopped = false) : (o.sendMessage 42 text w).1 = .done () := by
  have hpieces : Outbox.textPieces (Transport.textLimit w.messenger) text = [text] :=
    splitText_of_fits hfits
  obtain ⟨s', hanswers⟩ : ∃ s', TextTry.Answers 42 ⟨text, none⟩ w.messenger s' := by
    have hcalls : Session.textCalls 42 text = [⟨42, .message text⟩] := by
      rw [Session.textCalls, splitText_of_fits hfits]
      rfl
    simp only [TextTry.Answers, Transport.sendText, Session.sendText, hcalls]
    rcases w.messenger.api with ⟨_ | n⟩ <;> exact ⟨_, rfl⟩
  rw [Outbox.sendMessage_of_answers o hpieces hw (.inl rfl) hanswers]
  rfl

theorem ping_eq_done {c : CommandContext (Session Fussy)} (hc : c.thread = 42)
    {w : World (Session Fussy)} (hw : w.stopped = false) :
    (Command.ping.run c w).1 = .done (.ok ()) := by
  have hfits : "Pong!".utf8ByteSize ≤ Telegram.messageLimit := by decide +kernel
  have hreplied : (Command.reply c "Pong!" w).1 = .done () := by
    rw [Command.reply, hc]
    exact sendMessage_eq_done c.pipeline.outbox hfits hw
  change ((Command.reply c "Pong!").bind _ w).1 = _
  rw [Job.bind_of_done hreplied]
  rfl

theorem succeedsAmong_renewed :
    BotState.SucceedsAmong renewed.handler (renewed.messagesOf [ping]) renewed.bot
      ⟨5, 42, "1", "!ping"⟩ ⟨"ping", []⟩ renewed.bot where
  came := ⟨[], [], rfl, rfl⟩
  heard := by decide +kernel
  call := by decide +kernel
  success := by
    have hfound : renewed.bot.registry.allowed renewed.bot.world.now 5 (lowerText "ping") =
        .ok Command.ping := rfl
    unfold BotState.carried
    rw [hfound]
    have hstopped : (renewed.handler.begun renewed.bot.counted.world).stopped = false := by
      decide +kernel
    exact CommandRegistry.carryOut_eq_done (ping_eq_done rfl hstopped)

/-- The run that begins with an hour of cooldown lets its user call again at once. -/
theorem armsFor_iff_quick :
    let s := BotState.handleFrom renewed.handler ⟨5, 42, "1", "!ping"⟩ renewed.bot renewed.bot
    quickFile.load = .ok quickConfig ∧ Reached quickFile world (some slowConfig) renewed ∧
      s.ArmsFor 5 "ping" 0 := by
  intro s
  have hload : quickFile.load = .ok quickConfig := ConfigFile.load_holding isSound_quickConfig _
  obtain ⟨-, harms⟩ := armsFor_iff hload reached_renewed
  exact ⟨hload, reached_renewed, (harms [ping] _ _ _ succeedsAmong_renewed).1⟩

/-- The settings of that run say an hour, and a success in it makes nobody wait for an hour. -/
theorem not_armsFor_slowConfig :
    let m : Message := ⟨5, 42, "1", "!ping"⟩
    Reached quickFile world (some slowConfig) renewed ∧
      BotState.SucceedsAmong renewed.handler (renewed.messagesOf [ping]) renewed.bot m
        ⟨"ping", []⟩ renewed.bot ∧
      ¬ (BotState.handleFrom renewed.handler m renewed.bot renewed.bot).ArmsFor 5 "ping"
        slowConfig.bot.cooldown := by
  intro m
  have hload : quickFile.load = .ok quickConfig := ConfigFile.load_holding isSound_quickConfig _
  have harms := (reached_renewed.keeps hload).cooldown ▸ succeedsAmong_renewed.armsFor
  refine ⟨reached_renewed, succeedsAmong_renewed, ?_⟩
  rw [harms.unique]
  decide

end Patience

end Daemon
end MediaRelay
