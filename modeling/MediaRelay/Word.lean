/-! Words of 64 bits: the numbers that they hold with a sign and without. -/

namespace MediaRelay.Word

def maxUnsigned : Nat := 0xFFFFFFFFFFFFFFFF

def maxSigned : Int := 0x7FFFFFFFFFFFFFFF

def minSigned : Int := -0x8000000000000000

abbrev Signed := { n : Int // minSigned ≤ n ∧ n ≤ maxSigned }

def count : Nat := maxUnsigned + 1

/-- The product of two numbers, or the largest word where it does not fit into one. -/
def times (a b : Nat) : Nat := min (a * b) maxUnsigned

end MediaRelay.Word
