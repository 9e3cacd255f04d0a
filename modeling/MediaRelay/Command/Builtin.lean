import MediaRelay.Command.Basic
import MediaRelay.Command.Uptime
import MediaRelay.Decimal.Unsigned
/-! The commands that are always there. -/

namespace MediaRelay.Command

variable {τ : Type} [Transport τ]

def version : String := "0.1.0"

def systemName : String := "linux/x86_64"

def workers : Nat := 1

def ping : Command τ where
  name := "ping"
  description := "Checks that the bot is alive"
  run c := replyOnly c "Pong!"

def helpText (listing : List (String × String)) : String :=
  listing.foldl (fun text (name, description) => text ++ "\n- " ++ name ++ ": " ++ description)
    "Available commands:"

def help : Command τ where
  name := "help"
  description := "Lists all available commands"
  run c := replyOnly c (helpText c.listing)

def uptime : Command τ where
  name := "uptime"
  description := "Shows how long the bot has been running"
  run c := replyOnly c s!"⏱ Uptime: {uptimeText c.uptime}"

def aboutText (listing : List (String × String)) : String :=
  let names := ", ".intercalate (listing.map (·.1))
  s!"🤖 mediabot\nVersion: {version}\nOS/Arch: {systemName}\nCommands: {names}"

def about : Command τ where
  name := "about"
  description := "Shows bot information"
  run c := replyOnly c (aboutText c.listing)

def statusText (c : CommandContext τ) : String :=
  s!"📊 Bot Status\n⏱ Uptime: {uptimeText c.uptime}\n🧵 Runtime workers: {workers}\n" ++
  s!"💻 OS/Arch: {systemName}\n📦 Commands: {c.listing.length}\n✉️ Messages handled: {c.messages}"

def status : Command τ where
  name := "status"
  description := "Shows uptime, runtime workers and message counters"
  run c := replyOnly c (statusText c)

def idText (c : CommandContext τ) (self : Int) : String :=
  s!"🔍 Info\nThread ID: {c.thread}\nSender ID: {c.user}\nMessage ID: {c.messageId}\nBot ID: {self}"

def id : Command τ where
  name := "id"
  description := "Shows thread, sender and bot ids"
  run c := fun w => replyOnly c (idText c (Transport.selfId w.messenger)) w

/-- How many sides the die has: the first argument, if it is a number above one. -/
def sides (args : List String) : Nat :=
  match args.head?.bind fun a => Decimal.unsigned? a.toList with
  | some n => if n > 1 then n else 6
  | none => 6

def roll : Command τ where
  name := "roll"
  description := "Rolls a die (1-6, or !roll <sides>)"
  run c :=
    let max := sides c.args
    (Job.draw max).bind fun k => replyOnly c s!"🎲 Result: {k + 1} (1-{max})"

def coinflip : Command τ where
  name := "coinflip"
  description := "Flips a coin (heads/tails)"
  run c := (Job.draw 2).bind fun k => replyOnly c (if k = 0 then "🪙 Heads" else "🪙 Tails")

/-- What a message says after its first word, without blanks around it. -/
def afterFirstWord (text : String) : String :=
  String.ofList (Text.trim ((Text.trim text.toList).dropWhile (!Text.isBlank ·)))

def say : Command τ where
  name := "say"
  description := "Repeats your message"
  run c :=
    let message := afterFirstWord c.rawText
    if message.isEmpty then refuse (.usage "say <message>") else replyOnly c s!"🗣 {message}"

/-- The link that the command is for, in its first argument. -/
def linkArgument? (args : List String) : Option String :=
  args.head?.filter fun a => a.startsWith "http://" || a.startsWith "https://"

/-- Delivers the items behind a link and tells of those that failed. -/
def deliverLink (c : CommandContext τ) (link : String) : Job τ CommandResult :=
  (c.pipeline.extract link).bind fun items =>
    (reply c s!"Found {items.length} media items, processing...").bind fun _ =>
      (c.pipeline.deliverItems c.thread items).bind fun delivery =>
        match delivery with
        | .sent _ => Job.pure (.ok ())
        | .partialSent _ failures => replyOnly c (failureSummary failures)

def media : Command τ where
  name := "media"
  description := "Downloads media from Instagram, TikTok, Douyin and Facebook"
  run c :=
    match linkArgument? c.args with
    | none => refuse (.usage "media <url>")
    | some link => deliverLink c link

def builtins : List (Command τ) :=
  [ping, help, uptime, about, status, id, roll, coinflip, say, media]

end MediaRelay.Command
