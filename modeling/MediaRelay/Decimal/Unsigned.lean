import MediaRelay.Word
/-! Unsigned numbers of 64 bits as people write them: ASCII digits, with or without a plus sign. -/

namespace MediaRelay.Decimal

def digitsValue (digits : List Char) : Nat := digits.foldl (fun n c => n * 10 + (c.toNat - '0'.toNat)) 0

/-- The number that digits spell, if it fits. -/
def value? (digits : List Char) : Option Nat :=
  if digits.isEmpty || !digits.all Char.isDigit then none
  else
    let n := digitsValue digits
    if n ≤ Word.maxUnsigned then some n else none

def unsigned? (s : List Char) : Option Nat :=
  match s with
  | '+' :: digits => value? digits
  | digits => value? digits

end MediaRelay.Decimal
