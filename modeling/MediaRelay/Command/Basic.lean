import MediaRelay.Pipeline
/-! Commands: what one sees when it runs, and how it replies. -/

namespace MediaRelay

structure CommandContext (τ : Type) where
  user : Int
  thread : Thread
  messageId : String
  args : List String
  /-- the whole message -/
  rawText : String
  /-- how long the bot has run -/
  uptime : Nanos
  pipeline : Pipeline τ
  /-- names and descriptions of all commands, by name -/
  listing : List (String × String)
  /-- messages handled so far -/
  messages : Nat

abbrev CommandResult := Except CommandError Unit

structure Command (τ : Type) where
  name : String
  description : String
  run : CommandContext τ → Job τ CommandResult

namespace Command

variable {τ : Type} [Transport τ]

def reply (c : CommandContext τ) (text : String) : Job τ Unit := c.pipeline.outbox.sendMessage c.thread text

def replyOnly (c : CommandContext τ) (text : String) : Job τ CommandResult :=
  (reply c text).bind fun _ => Job.pure (.ok ())

def refuse (e : CommandError) : Job τ CommandResult := Job.pure (.error e)

end Command
end MediaRelay
