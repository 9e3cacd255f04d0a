import MediaRelay.Word
/-! Values of TOML. Real numbers and dates are kept only as far as their kind, since no setting is one. -/

namespace MediaRelay

inductive Toml where
  | string (s : String)
  | integer (n : Word.Signed)
  | real
  | boolean (b : Bool)
  | moment
  | array (items : List Toml)
  | table (entries : List (String × Toml))
deriving Repr, Inhabited

namespace Toml

def isBlank (c : Char) : Bool := c = ' ' || c = '\t'

/-- Characters of comments; literal strings hold them too. All controls but the tab are out. -/
def isPlain (c : Char) : Bool := c = '\t' || (0x20 ≤ c.toNat && c.toNat ≠ 0x7F)

/-- The text after the line break that begins it. -/
def afterBreak? : List Char → Option (List Char)
  | '\n' :: rest => some rest
  | '\r' :: '\n' :: rest => some rest
  | _ => none

theorem afterBreak?_length {s rest : List Char} (h : afterBreak? s = some rest) : rest.length < s.length := by
  unfold afterBreak? at h
  split at h <;> cases h <;> simp only [List.length_cons] <;> omega

end Toml
end MediaRelay
