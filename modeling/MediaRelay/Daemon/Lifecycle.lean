/-! How a run of the bot is brought to its end. Three tasks have a part in it, and their steps may interleave in any
way. The watcher takes up a request for a restart and fires the token of the run. The run connects, leaves a stopper
behind and begins to dispatch updates. The stopper waits for the token and then tells the dispatcher to stop, which
a dispatcher heeds only while it dispatches. -/

namespace MediaRelay.Daemon

inductive Dispatcher where
  /-- the run is still connecting -/
  | absent
  | idle
  | dispatching
  | stopped
deriving DecidableEq, Repr

inductive Stopper where
  | absent
  | waiting
  /-- it ended, and the dispatcher did not heed it -/
  | unheeded
  | heeded
deriving DecidableEq, Repr

structure Lifecycle where
  /-- a restart was asked for and has not been taken up; asking again changes nothing -/
  restartAsked : Bool := false
  /-- the watcher still waits for a request -/
  isWatched : Bool := true
  tokenFired : Bool := false
  dispatcher : Dispatcher := .absent
  stopper : Stopper := .absent
deriving DecidableEq, Repr

inductive LifecycleEvent where
  | askRestart
  | takeUpRestart
  | connect
  | dispatch
  /-- the stopper sees the token -/
  | stop
  /-- the process is interrupted, which a dispatching dispatcher sees by itself -/
  | interrupt
  /-- the next run begins -/
  | renew
deriving DecidableEq, Repr

namespace Lifecycle

def allows (s : Lifecycle) : LifecycleEvent → Bool
  | .askRestart => true
  | .takeUpRestart => s.restartAsked && s.isWatched
  | .connect => s.dispatcher = .absent
  | .dispatch => s.dispatcher = .idle
  | .stop => s.stopper = .waiting && s.tokenFired
  | .interrupt => s.dispatcher = .dispatching
  | .renew => s.dispatcher = .stopped && s.tokenFired

def stopped (s : Lifecycle) : Lifecycle :=
  if s.dispatcher = .dispatching then { s with dispatcher := .stopped, stopper := .heeded }
  else { s with stopper := .unheeded }

def after (s : Lifecycle) : LifecycleEvent → Lifecycle
  | .askRestart => { s with restartAsked := true }
  | .takeUpRestart => { s with restartAsked := false, isWatched := false, tokenFired := true }
  | .connect => { s with dispatcher := .idle, stopper := .waiting }
  | .dispatch => { s with dispatcher := .dispatching }
  | .stop => s.stopped
  | .interrupt => { s with dispatcher := .stopped }
  | .renew => { restartAsked := s.restartAsked }

inductive Step : Lifecycle → Lifecycle → Prop where
  | of (s : Lifecycle) (e : LifecycleEvent) (h : s.allows e = true) : Step s (s.after e)

inductive Reachable : Lifecycle → Prop where
  | start : Reachable {}
  | step {s t : Lifecycle} : Reachable s → Step s t → Reachable t

/-- A run that was to stop dispatches, and nobody is left to stop it. -/
def IsStranded (s : Lifecycle) : Prop :=
  s.dispatcher = .dispatching ∧ s.tokenFired = true ∧ s.stopper = .unheeded

instance (s : Lifecycle) : Decidable s.IsStranded := inferInstanceAs (Decidable (_ ∧ _ ∧ _))

end Lifecycle
end MediaRelay.Daemon
