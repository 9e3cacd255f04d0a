/-! Trees read from JSON text. Besides the values of JSON a tree can end in `broken`, which stands where the
text stopped being JSON. All that was read before that point is kept, so that a decoder which walks the tree
in text order meets the first fault of the text first, be it one of form or one of content. -/

namespace MediaRelay

/-- A number as the text gives it. A real number is kept only as far as its kind: no reader here uses its
value, but some must know that it is beyond the range of a double. -/
inductive Json.Number where
  | integer (n : Int)
  | real (inRange : Bool)
deriving DecidableEq, Repr, Inhabited

/-- A string is `none` when its escapes or bytes spell no text: it may be skipped but not used. -/
inductive Json where
  | null
  | bool (b : Bool)
  | number (n : Json.Number)
  | string (s : Option String)
  | array (items : List Json)
  | object (members : List (Option String × Json))
  | broken
deriving Repr, Inhabited

namespace Json

def int (n : Int) : Json := .number (.integer n)

def nat (n : Nat) : Json := .number (.integer n)

def str (s : String) : Json := .string (some s)

def record (members : List (String × Json)) : Json := .object (members.map fun (k, v) => (some k, v))

/-- The value under a key; of several the last. -/
def get? (key : String) : Json → Option Json
  | .object members => (members.reverse.find? (·.1 == some key)).map (·.2)
  | _ => none

end Json
end MediaRelay
