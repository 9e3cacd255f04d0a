/-! Which decimal numbers a double can hold. -/

namespace MediaRelay.Decimal

/-- The largest finite double, plus half a unit in its last place: reals from here on are out of range. -/
def rangeEnd : Nat := Nat.pow 2 1024 - Nat.pow 2 970

/-- Whether `digits · 10 ^ exponent` rounds to a finite double. `digits` has `count` decimal places. -/
def inRange (digits count : Nat) (exponent : Int) : Bool :=
  if digits = 0 then true
  else if exponent > 310 then false
  else if exponent < -(count : Int) then true
  else if 0 ≤ exponent then digits * Nat.pow 10 exponent.toNat < rangeEnd
  else digits < rangeEnd * Nat.pow 10 (-exponent).toNat

end MediaRelay.Decimal
