import MediaRelay.Text.Quote.Table
/-! Text in double quotes for a reader. Quotes and backslashes are escaped, the common controls by a letter, and
whatever else would not show by its number. -/

namespace MediaRelay.Text

/-- Whether a character has a shape of its own on a page. -/
def isShown (c : Char) : Bool :=
  if c.toNat < 0x7F then 0x20 ≤ c.toNat
  else !hiddenRanges.any fun (lo, hi) => lo ≤ c.toNat && c.toNat ≤ hi

def quoteChar (c : Char) : List Char :=
  match c with
  | '\x00' => ['\\', '0']
  | '\t' => ['\\', 't']
  | '\r' => ['\\', 'r']
  | '\n' => ['\\', 'n']
  | '"' => ['\\', '"']
  | '\\' => ['\\', '\\']
  | c => if isShown c then [c] else ['\\', 'u', '\x7b'] ++ Nat.toDigits 16 c.toNat ++ ['\x7d']

end MediaRelay.Text

namespace MediaRelay

def quoteText (s : String) : String := String.ofList (['"'] ++ s.toList.flatMap Text.quoteChar ++ ['"'])

end MediaRelay
