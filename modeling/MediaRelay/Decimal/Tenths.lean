/-! Seconds with one decimal place. A duration is first held as a binary fraction of 53 bits, the whole
seconds plus the nearest such fraction of the rest, and the exact value of that is rounded to tenths, where a
tie goes to the even tenth. -/

namespace MediaRelay.Decimal

/-- A quotient of naturals rounded to the nearest, ties to even. -/
def roundDiv (num den : Nat) : Nat :=
  let q := num / den
  let r := num % den
  if 2 * r < den then q
  else if den < 2 * r then q + 1
  else if q % 2 = 0 then q else q + 1

/-- The places after the binary point that 53 significant bits leave for `num / den`, up to 1074. -/
def placesFor (num den : Nat) : Nat :=
  (1074 : Nat).min ((53 + Nat.log2 den + 1) - Nat.log2 num)

/-- `num / den` rounded to 53 significant bits, as a numerator over a power of two: the number of places is
chosen such that the numerator has 53 bits, or 54 which are then rounded once more from the same quotient. -/
def round53 (num den : Nat) : Nat × Nat :=
  if num = 0 then (0, 0)
  else
    let places := placesFor num den
    let whole := num * Nat.pow 2 places / den
    -- one place fewer if the quotient came out a bit too long
    let places := places - (Nat.log2 whole + 1 - 53)
    (roundDiv (num * Nat.pow 2 places) den, places)

/-- The binary value of a duration of nanoseconds, as a numerator and a number of binary places. -/
def binarySeconds (nanos : Nat) : Nat × Nat :=
  let whole := nanos / 1000000000
  let (frac, places) := round53 (nanos % 1000000000) 1000000000
  round53 (whole * Nat.pow 2 places + frac) (Nat.pow 2 places)

def seconds (nanos : Nat) : String :=
  let (num, places) := binarySeconds nanos
  let tenths := roundDiv (10 * num) (Nat.pow 2 places)
  s!"{tenths / 10}.{tenths % 10}"

end MediaRelay.Decimal
