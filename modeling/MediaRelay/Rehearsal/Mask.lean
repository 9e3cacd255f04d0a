/-! Replies that chance has a part in, with what was drawn left out. -/

namespace MediaRelay.Rehearsal

def numeral? (s : String) : Option Nat := s.toNat?.filter fun n => toString n == s

/-- The upper bound in a range from one, in brackets. -/
def rangeTop? (range : String) : Option Nat :=
  match range.splitOn "-" with
  | ["(1", top] => if top.endsWith ")" then numeral? (top.dropEnd 1).toString else none
  | _ => none

/-- A text without the number or the side that was drawn, if it is the reply of a roll or a toss. -/
def masked (text : String) : String :=
  match text.splitOn " " with
  | ["🎲", "Result:", drawn, range] =>
    match numeral? drawn, rangeTop? range with
    | some k, some top => if 1 ≤ k && k ≤ top then s!"🎲 Result: <1..{top}> (1-{top})" else text
    | _, _ => text
  | ["🪙", side] => if side == "Heads" || side == "Tails" then "🪙 <Heads|Tails>" else text
  | _ => text

end MediaRelay.Rehearsal
