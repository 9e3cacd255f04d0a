import MediaRelay.Error
import MediaRelay.Text.Case
/-! Waiting times: after a success a user has to wait before the same command runs again. Names count in lower
case. -/

namespace MediaRelay

abbrev CooldownKey := Int × String

structure Cooldowns where
  entries : List (CooldownKey × Nanos) := []

namespace Cooldowns

def keyOf (user : Int) (name : String) : CooldownKey := (user, lowerText name)

def expiry? (c : Cooldowns) (key : CooldownKey) : Option Nanos := c.entries.lookup key

def remaining? (c : Cooldowns) (now : Nanos) (key : CooldownKey) : Option Nanos :=
  match c.expiry? key with
  | some expiry => if now < expiry then some (expiry - now) else none
  | none => none

def arm (c : Cooldowns) (key : CooldownKey) (expiry : Nanos) : Cooldowns :=
  ⟨(key, expiry) :: c.entries.filter (·.1 != key)⟩

def active (c : Cooldowns) (now : Nanos) : Nat := c.entries.countP (now < ·.2)

def clean (c : Cooldowns) (now : Nanos) : Cooldowns := ⟨c.entries.filter (now < ·.2)⟩

def expired (c : Cooldowns) (now : Nanos) : Nat := c.entries.length - (c.clean now).entries.length

theorem expiry?_arm_self (c : Cooldowns) (key : CooldownKey) (t : Nanos) :
    (c.arm key t).expiry? key = some t := by
  simp [expiry?, arm]

end Cooldowns
end MediaRelay
