import MediaRelay.Transport.Basic
import MediaRelay.Web.Exchange
import MediaRelay.Web.Cookie
import MediaRelay.Word
/-! The world a piece of work runs in: a clock, a stop token, the web and the messaging platform, with logs of
all that was asked of them. A job is a step of work in a world. It ends with a value, with a failure, or it is
left waiting at a point where the token has fired; whoever watches the token turns that into a cancellation. -/

namespace MediaRelay

structure Client where
  timeout : Nanos
  jar : Web.CookieJar := {}

structure Timer where
  /-- how long a sleep lasts that begins at a moment and is to last for a time -/
  lasting : Nanos → Nanos → Nanos
  /-- the last moment that the clock shows -/
  last : Nanos
  exact : ∀ now time, now + time ≤ last → lasting now time = time

namespace Timer

/-- The last moment that a clock shows which counts seconds in a word with a sign. -/
def lastOfWord : Nanos := Word.count / 2 * nanosPerSecond - 1

/-- A clock that began with the world. A sleep that it does not reach the end of lasts for thirty years. -/
def ofWord : Timer where
  lasting now time := if now + time ≤ lastOfWord then time else 30 * 365 * 86400 * nanosPerSecond
  last := lastOfWord
  exact _ _ h := if_pos h

end Timer

inductive Asked where
  | request (q : Web.Request)
  | call (what : Call)

structure World (τ : Type) where
  now : Nanos := 0
  timer : Timer := .ofWord
  /-- when the token was fired -/
  firedAt : Option Nanos := none
  /-- when the token of this piece of work fires by itself -/
  deadline : Option Nanos := none
  network : Web.Network
  client : Client
  /-- oldest first -/
  requests : List Web.Request := []
  messenger : τ
  /-- oldest first -/
  calls : List CallRecord := []
  /-- what was asked for although the token had fired, oldest first -/
  late : List Asked := []
  /-- where chance comes from, draw by draw -/
  chance : Nat → Nat := fun _ => 0
  drawn : Nat := 0

inductive Outcome (α : Type) where
  | done (value : α)
  | failed (cause : MediaError)
  | waiting
  | crashed

def Job (τ α : Type) : Type := World τ → Outcome α × World τ

namespace World

variable {τ : Type}

def stopped (w : World τ) : Bool :=
  w.firedAt.isSome || w.deadline.any (· ≤ w.now)

/-- What was asked for too late, when this is asked for now. -/
def lateWith (a : Asked) (w : World τ) : List Asked := if w.stopped then w.late ++ [a] else w.late

def fire (w : World τ) : World τ := { w with firedAt := w.firedAt <|> some w.now }

/-- Fires the token of this piece of work alone. -/
def expire (w : World τ) : World τ := { w with deadline := some (w.deadline.elim w.now (min w.now)) }

/-- Lets time pass, up to the moment at which the token fires. True when all of it passed. -/
def sleep (time : Nanos) (w : World τ) : Bool × World τ :=
  if w.stopped then (false, w)
  else match w.deadline with
    | some deadline =>
      if deadline ≤ w.now + time then (false, { w with now := deadline })
      else (true, { w with now := w.now + time })
    | none => (true, { w with now := w.now + time })

end World

namespace Job

variable {τ α β : Type}

def pure (a : α) : Job τ α := fun w => (.done a, w)

def fail (e : MediaError) : Job τ α := fun w => (.failed e, w)

def bind (job : Job τ α) (next : α → Job τ β) : Job τ β := fun w =>
  match job w with
  | (.done a, w) => next a w
  | (.failed e, w) => (.failed e, w)
  | (.waiting, w) => (.waiting, w)
  | (.crashed, w) => (.crashed, w)

instance : Monad (Job τ) where
  pure := Job.pure
  bind := Job.bind

def ofExcept : Except MediaError α → Job τ α
  | .ok a => Job.pure a
  | .error e => fail e

def mapError (f : MediaError → MediaError) (job : Job τ α) : Job τ α := fun w =>
  match job w with
  | (.failed e, w) => (.failed (f e), w)
  | r => r

/-- Runs a job under the token: it is not started when the token has fired, and given up when the token fires
while it waits. -/
def watch (job : Job τ α) : Job τ α := fun w =>
  if w.stopped then (.failed .cancelled, w)
  else match job w with
    | (.waiting, w) => (.failed .cancelled, w)
    | r => r

def pause (time : Nanos) : Job τ Unit := fun w =>
  match w.sleep time with
  | (true, w) => (.done (), w)
  | (false, w) => (.waiting, w)

/-- Sleeps for as long as the timer makes of a time, or until the token fires. -/
def rest (time : Nanos) : Job τ Unit := fun w => pause (w.timer.lasting w.now time) w

/-- Draws a number below `bound`, or zero if there is none. -/
def draw (bound : Nat) : Job τ Nat := fun w =>
  (.done (w.chance w.drawn % bound), { w with drawn := w.drawn + 1 })

/-- Makes a call to the platform and logs it, with what its answer hands out. -/
def call (what : Call) (ask : τ → Answer α × τ) (handed : α → Option Attachment) : Job τ α := fun w =>
  let (answer, messenger) := ask w.messenger
  let record : CallRecord := ⟨what, answer.verdict, answer.fires, answer.value?.bind handed⟩
  let w := { w with messenger, calls := w.calls ++ [record], late := w.lateWith (.call what) }
  let w := if answer.fires then w.fire else w
  match answer with
  | .accepted a _ => (.done a, w)
  | .refused e _ => (.failed (.transport e), w)
  | .unanswered => (.waiting, w)
  | .crashed => (.crashed, w)

end Job
end MediaRelay
