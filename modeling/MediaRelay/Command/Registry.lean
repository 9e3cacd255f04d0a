import MediaRelay.Command.Builtin
import MediaRelay.Command.Cooldown
/-! The commands that are known, and the gate in front of them: a command that succeeded makes its user wait. -/

namespace MediaRelay

structure CommandRegistry (τ : Type) where
  /-- by name in lower case, at most one for a name -/
  commands : List (String × Command τ) := []
  cooldowns : Cooldowns := {}
  /-- how long a success makes its user wait -/
  cooldown : Nanos

namespace CommandRegistry

variable {τ : Type}

/-- Adds a command under its name, in place of any other of that name. -/
def register (r : CommandRegistry τ) (c : Command τ) : CommandRegistry τ :=
  let name := lowerText c.name
  { r with commands := (name, c) :: r.commands.filter (·.1 != name) }

def registerAll (r : CommandRegistry τ) (cs : List (Command τ)) : CommandRegistry τ := cs.foldl register r

def get? (r : CommandRegistry τ) (name : String) : Option (Command τ) := r.commands.lookup (lowerText name)

def listing (r : CommandRegistry τ) : List (String × String) :=
  (r.commands.map fun (name, c) => (name, c.description)).mergeSort fun a b => !(b.1 < a.1)

def setCooldown (r : CommandRegistry τ) (now : Nanos) (user : Int) (name : String) : CommandRegistry τ :=
  { r with cooldowns := r.cooldowns.arm (Cooldowns.keyOf user name) (now + r.cooldown) }

def checkCooldown (r : CommandRegistry τ) (now : Nanos) (user : Int) (name : String) : Option Nanos :=
  r.cooldowns.remaining? now (Cooldowns.keyOf user name)

def clean (r : CommandRegistry τ) (now : Nanos) : CommandRegistry τ :=
  { r with cooldowns := r.cooldowns.clean now }

/-- How a run of a command ended, as its caller sees it. -/
def resultOf : Outcome CommandResult → Outcome CommandResult
  | .failed e => .done (.error (.media e))
  | r => r

/-- The command that a user may run under a name, if it is known and the user need not wait. -/
def allowed (r : CommandRegistry τ) (now : Nanos) (user : Int) (name : String) : Except CommandError (Command τ) :=
  match r.get? name with
  | none => .error (.notFound name)
  | some command =>
    match r.checkCooldown now user name with
    | some left => .error (.cooldown left)
    | none => .ok command

/-- What becomes of a call that looked for its command and found this. Only a success makes the user wait. -/
def carryOut (r : CommandRegistry τ) (found : Except CommandError (Command τ)) (name : String)
    (c : CommandContext τ) (w : World τ) : Outcome CommandResult × CommandRegistry τ × World τ :=
  match found with
  | .error e => (.done (.error e), r, w)
  | .ok command =>
    let (outcome, w) := command.run c w
    match resultOf outcome with
    | .done (.ok ()) => (.done (.ok ()), r.setCooldown w.now c.user name, w)
    | outcome => (outcome, r, w)

/-- Runs a command, if it is known and its user need not wait. -/
def execute (r : CommandRegistry τ) (name : String) (c : CommandContext τ) (w : World τ) :
    Outcome CommandResult × CommandRegistry τ × World τ :=
  let name := lowerText name
  r.carryOut (r.allowed w.now c.user name) name c w

end CommandRegistry
end MediaRelay
