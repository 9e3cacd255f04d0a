import MediaRelay.Command.Registry
import MediaRelay.Config.Basic
import MediaRelay.Message.Invocation
import MediaRelay.Message.Link
/-! One run of the bot: what it does with a message. A command is answered, with its failure if need be. A link alone
is followed quietly: nothing is said of it unless some of its items were delivered and others were not. -/

namespace MediaRelay

structure Message where
  user : Int
  thread : Thread
  id : String
  text : String
deriving DecidableEq, Repr, Inhabited

structure BotRun (τ : Type) where
  config : Config
  permitted : config.media.maxConcurrentDownloads ≤ Downloader.maxPermits := by decide
  platforms : List (Platform τ)
  /-- how long the bot has run -/
  uptime : Nanos := 0

structure BotState (τ : Type) where
  registry : CommandRegistry τ
  /-- messages handled so far -/
  messages : Nat := 0
  world : World τ

namespace BotRun

variable {τ : Type}

def pipeline (b : BotRun τ) : Pipeline τ :=
  { platforms := b.platforms
    downloader :=
      { maxBytes := b.config.media.maxDownloadBytes, concurrency := b.config.media.maxConcurrentDownloads
        permitted := b.permitted }
    outbox := { attempts := b.config.media.sendAttempts, maxUpload := b.config.media.maxUploadBytes } }

/-- Runs a job under a token of its own, which fires when the pipeline has taken too long. -/
def withinTimeout {α : Type} (b : BotRun τ) (job : World τ → α × World τ) : World τ → α × World τ := fun w =>
  let (a, w) := job { w with deadline := some (w.now + b.config.media.pipelineTimeout) }
  (a, { w with deadline := none })

end BotRun

/-- What a user is told of a failure: what the user can mend in plain words, all else as an error. -/
def CommandError.reply (e : CommandError) : String :=
  match e with
  | .notFound _ => e.message
  | .cooldown _ => e.message
  | .usage _ => e.message
  | e => s!"Error: {e.message}"

namespace BotState

variable {τ : Type} [Transport τ]

def say (b : BotRun τ) (thread : Thread) (text : String) (w : World τ) : World τ :=
  (b.pipeline.outbox.sendMessage thread text w).2

def contextOf (b : BotRun τ) (s : BotState τ) (m : Message) (args : List String) : CommandContext τ :=
  { user := m.user, thread := m.thread, messageId := m.id, args, rawText := m.text, uptime := b.uptime
    pipeline := b.pipeline, listing := s.registry.listing, messages := s.messages }

/-- Runs the command that a message calls, and replies with its failure. Whether the user has to wait was looked up in
an earlier state, when the message came. -/
def runCommand (b : BotRun τ) (m : Message) (i : Invocation) (s earlier : BotState τ) : BotState τ :=
  let context := contextOf b s m i.args
  let name := lowerText i.name
  let found := earlier.registry.allowed earlier.world.now m.user name
  let ((outcome, registry), w) := b.withinTimeout
    (fun w =>
      let (outcome, registry, w) := s.registry.carryOut found name context w
      ((outcome, registry), w))
    s.world
  let w := match outcome with
    | .done (.error e) => say b m.thread e.reply w
    | _ => w
  { s with registry, world := w }

def followLink (b : BotRun τ) (m : Message) (link : String) (s : BotState τ) : BotState τ :=
  let ((), w) := b.withinTimeout
    (fun w =>
      match b.pipeline.deliver m.thread link w with
      | (.done (.partialSent _ failures), w) => ((), say b m.thread (failureSummary failures) w)
      | (_, w) => ((), w))
    s.world
  { s with world := w }

/-- Whether a message is left aside: the bot's own ones are, and blank ones. -/
def ignores (s : BotState τ) (m : Message) : Bool :=
  m.user = Transport.selfId s.world.messenger || isBlankText m.text

/-- Handles a message that came in an earlier state, of which other messages were handled since. -/
def handleFrom (b : BotRun τ) (m : Message) (s earlier : BotState τ) : BotState τ :=
  if s.ignores m then s
  else
    let s := { s with messages := s.messages + 1 }
    match parseInvocation m.text b.config.bot.commandPrefix with
    | some i => s.runCommand b m i earlier
    | none =>
      if b.config.bot.autoMedia then
        match findLink m.text with
        | some link => if b.pipeline.supports link then s.followLink b m link else s
        | none => s
      else s

def handle (b : BotRun τ) (m : Message) (s : BotState τ) : BotState τ := s.handleFrom b m s

/-- Handles messages that come together: all of them look at the cooldowns before any command of theirs ends. -/
def handleAll (b : BotRun τ) (ms : List Message) (s : BotState τ) : BotState τ :=
  ms.foldl (fun t m => t.handleFrom b m s) s

end BotState
end MediaRelay
