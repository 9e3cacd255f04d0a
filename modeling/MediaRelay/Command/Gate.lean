import MediaRelay.Command.Registry
/-! Commands that run side by side before one registry. Each call takes three steps, between which other calls may
take theirs: it looks for its command and at the cooldown, its handler ends, and if that was with success the cooldown
is armed. -/

namespace MediaRelay

/-- A call of a command. Calls are told apart by number. -/
structure GateCall where
  id : Nat
  user : Int
  name : String
deriving DecidableEq, Repr

def GateCall.key (c : GateCall) : CooldownKey := Cooldowns.keyOf c.user c.name

inductive CallPhase where
  | coming
  /-- there is no such command, or its user has to wait -/
  | refused
  | running
  | failed
  /-- its handler ended with success, and the cooldown is not armed yet -/
  | succeeded
  | armed
deriving DecidableEq, Repr

structure Gate (τ : Type) where
  registry : CommandRegistry τ
  now : Nanos
  phaseOf : GateCall → CallPhase := fun _ => .coming
  /-- the calls whose handlers ended with success, in order, each with its time -/
  successes : List (GateCall × Nanos) := []

inductive GateEvent where
  | advance (time : Nanos)
  | clean
  /-- a call looks for its command and at the cooldown -/
  | look (call : GateCall)
  | fail (call : GateCall)
  | succeed (call : GateCall)
  | arm (call : GateCall)
deriving DecidableEq, Repr

namespace Gate

variable {τ : Type}

def move (g : Gate τ) (call : GateCall) (phase : CallPhase) : Gate τ :=
  { g with phaseOf := fun c => if c = call then phase else g.phaseOf c }

def admits (g : Gate τ) (call : GateCall) : Bool :=
  (g.registry.allowed g.now call.user (lowerText call.name)).isOk

def allows (g : Gate τ) : GateEvent → Bool
  | .look call => g.phaseOf call = .coming
  | .fail call => g.phaseOf call = .running
  | .succeed call => g.phaseOf call = .running
  | .arm call => g.phaseOf call = .succeeded
  | _ => true

def after (g : Gate τ) : GateEvent → Gate τ
  | .advance time => { g with now := g.now + time }
  | .clean => { g with registry := g.registry.clean g.now }
  | .look call => g.move call (if g.admits call then .running else .refused)
  | .fail call => g.move call .failed
  | .succeed call => { g.move call .succeeded with successes := g.successes ++ [(call, g.now)] }
  | .arm call =>
    { g.move call .armed with registry := g.registry.setCooldown g.now call.user (lowerText call.name) }

/-- A gate before which no call has come. -/
def opened (r : CommandRegistry τ) (start : Nanos) : Gate τ := { registry := r, now := start }

/-- The events can happen in this order when a gate was opened, and lead to a state. -/
inductive Runs (r : CommandRegistry τ) (start : Nanos) : List GateEvent → Gate τ → Prop where
  | nil : Runs r start [] (opened r start)
  | snoc {es : List GateEvent} {g : Gate τ} {e : GateEvent} :
    Runs r start es g → g.allows e = true → Runs r start (es ++ [e]) (g.after e)

/-- Successes for one key are at least the cooldown apart. -/
def IsSpaced (g : Gate τ) : Prop :=
  g.successes.Pairwise fun a b => a.1.key = b.1.key → a.2 + g.registry.cooldown ≤ b.2

instance (g : Gate τ) : Decidable g.IsSpaced := inferInstanceAs (Decidable (List.Pairwise _ _))

end Gate
end MediaRelay
