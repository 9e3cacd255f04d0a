import MediaRelay.Daemon.Basic
import MediaRelay.Dashboard.Routes
/-! A program on stage, with an audience whose updates come on cue: each waits until so many calls of the Bot API
went out after the cues were loaded. -/

namespace MediaRelay.Rehearsal

open Telegram (BotApi Session Update ApiRecord)

structure Cue where
  after : Nat
  update : Update

structure Stage (σ : Type) where
  daemon : Daemon σ
  /-- updates that have not come yet -/
  cues : List Cue
  /-- calls that had gone out when the cues were loaded -/
  loadedAt : Nat := 0
  /-- calls that were looked at -/
  seen : Nat := 0
  /-- a run has ended and another one is due -/
  isRenewing : Bool := false

namespace Stage

variable {σ : Type}

def calls (s : Stage σ) : List ApiRecord := s.daemon.world.messenger.calls

def isStaging (cacheChat : Int) (r : ApiRecord) : Bool := r.call.chat = cacheChat

/-- Calls that have not been looked at and went to other chats. -/
def fresh (s : Stage σ) : List ApiRecord :=
  (s.calls.drop s.seen).filter fun r => !isStaging s.daemon.world.messenger.cacheChat r

def load (cues : List Cue) (s : Stage σ) : Stage σ := { s with cues, loadedAt := s.calls.length }

variable [BotApi σ]

/-- Lets a run begin that is due. -/
def renewed (s : Stage σ) : Except Daemon.Failure (Stage σ) :=
  if s.isRenewing then s.daemon.renew.map fun daemon => { s with daemon, isRenewing := false } else .ok s

/-- A restart is taken up, if one was asked for and somebody watches. -/
def restartIfAsked (s : Stage σ) : Stage σ :=
  match s.daemon.takeUpRestart? with
  | some daemon => { s with daemon, isRenewing := true }
  | none => s

/-- The process is interrupted, which ends the program or lets another run begin. -/
def interrupt? (s : Stage σ) : Option (Stage σ) :=
  s.daemon.interrupted?.map fun daemon => { s with daemon, isRenewing := true }

def isReady (s : Stage σ) (c : Cue) : Bool := c.after ≤ s.calls.length - s.loadedAt

/-- All updates come that may, together. -/
def playReady (s : Stage σ) : Stage σ :=
  let (ready, cues) := s.cues.partition s.isReady
  { s with cues, daemon := s.daemon.receive (ready.map (·.update)) }

/-- Updates come, batch after batch, until there is enough or none may come; each batch takes a cue. -/
def playWithin (enough : Stage σ → Bool) : Nat → Stage σ → Stage σ
  | 0, s => s
  | n + 1, s => if enough s || !s.cues.any s.isReady then s else playWithin enough n s.playReady

def playUntil (enough : Stage σ → Bool) (s : Stage σ) : Stage σ := playWithin enough s.cues.length s

def awaitCalls (n : Nat) (s : Stage σ) : Stage σ := s.playUntil fun s => n ≤ s.fresh.length

def settle (s : Stage σ) : Stage σ := s.playUntil fun _ => false

/-- The calls that have not been looked at, those to the staging chat apart. -/
def look (s : Stage σ) : (List ApiRecord × List ApiRecord) × Stage σ :=
  ((s.calls.drop s.seen).partition (isStaging s.daemon.world.messenger.cacheChat),
    { s with seen := s.calls.length })

end Stage
end MediaRelay.Rehearsal
