import MediaRelay.Retry
/-! Rehearsing a backoff: attempts whose outcomes are on a tape, on a clock that only they and the delays
move. -/

namespace MediaRelay.Rehearsal

inductive TapeOutcome where
  | succeeds
  | fails (cause : MediaError)
  /-- the token fires and the attempt never ends -/
  | stops

structure Take where
  time : Nanos
  outcome : TapeOutcome

/-- The takes of a list, numbered from zero, the last of which repeats. -/
def Take.ofList (takes : List Take) (k : Nat) : Take := (takes[k]? <|> takes.getLast?).getD ⟨0, .succeeds⟩

structure Tape where
  takes : Nat → Take
  /-- attempts that were made ready, begun or not -/
  ready : Nat := 0
  /-- attempts that were begun -/
  played : Nat := 0
  /-- when they were begun, the latest first -/
  begun : List Nanos := []

namespace Tape

/-- Makes the next attempt ready, unless it is already. -/
def prepare (t : Tape) : Tape := { t with ready := max t.ready (t.played + 1) }

def begin (now : Nanos) (t : Tape) : Tape :=
  { t.prepare with played := t.played + 1, begun := now :: t.begun }

end Tape

/-- Begins an attempt and lets its time pass. True when all of it passed. -/
def Take.run (take : Take) (w : World Tape) : Bool × World Tape :=
  let w := { w with messenger := w.messenger.begin w.now }
  if take.time = 0 then (true, w) else w.sleep take.time

/-- How the attempt of a number ends once its time is over. -/
def TapeOutcome.settle (number : Nat) : TapeOutcome → Job Tape Nat
  | .succeeds => Job.pure number
  | .fails e => Job.fail e
  | .stops => fun w => (.waiting, w.fire)

/-- An attempt from the tape, whose value is its number, from one. -/
def play : Job Tape Nat := fun w =>
  let number := w.messenger.played + 1
  let take := w.messenger.takes w.messenger.played
  match take.run w with
  | (false, w) => (.waiting, w)
  | (true, w) => take.outcome.settle number w

structure TapeReport where
  outcome : Outcome Nat
  /-- attempts that were made ready -/
  attempts : Nat
  /-- when attempts were begun, the first one first -/
  begun : List Nanos
  elapsed : Nanos

def opening (takes : Nat → Take) (cancelAt : Option Nanos) : World Tape where
  deadline := cancelAt
  network := ⟨fun _ _ => .dropped⟩
  client := { timeout := 0 }
  messenger := { takes }

/-- Plays the takes of a tape. The first attempt is made ready before the token is looked at, and every other one
when its delay is over. -/
def playAll (b : Backoff) : Job Tape Nat := fun w =>
  Job.retry b play { w with messenger := w.messenger.prepare }

/-- Plays takes under a backoff, with a token that fires at a given time, if at all. -/
def perform (b : Backoff) (takes : Nat → Take) (cancelAt : Option Nanos) : TapeReport :=
  let (outcome, w) := playAll b (opening takes cancelAt)
  { outcome, attempts := w.messenger.ready, begun := w.messenger.begun.reverse, elapsed := w.now }

def rehearse (b : Backoff) (takes : List Take) (cancelAt : Option Nanos) : TapeReport :=
  perform b (.ofList takes) cancelAt

end MediaRelay.Rehearsal
