import MediaRelay.Toml.Quoted
import MediaRelay.Text.Search
/-! Writing TOML. A string takes the first of four forms that needs no escapes, and else is written with escapes; one
with line breaks takes several lines. An array of two or more items has each on a line of its own. -/

namespace MediaRelay.Toml

def longestRun (c : Char) (s : List Char) : Nat :=
  (s.foldl (fun (longest, here) d => if d = c then (max longest (here + 1), here + 1) else (longest, 0)) (0, 0)).1

/-- A control that only an escape can write; the tab and the line feed are not among them. -/
def needsEscape (c : Char) : Bool := c.toNat < 0x20 && c ≠ '\t' && c ≠ '\n' || c.toNat = 0x7F

inductive StringForm where
  | basic
  | literal
  | longBasic
  | longLiteral
deriving DecidableEq, Repr

def formOf (s : List Char) : StringForm :=
  let hasBreak := s.contains '\n'
  let escapes := s.any needsEscape
  let backslash := s.contains '\\'
  let double := longestRun '"' s
  let single := longestRun '\'' s
  if !escapes && !backslash && double = 0 && !hasBreak then .basic
  else if !escapes && single = 0 && !hasBreak then .literal
  else if !escapes && !backslash && double ≤ 2 then .longBasic
  else if !escapes && single ≤ 2 then .longLiteral
  else if hasBreak then .longBasic
  else .basic

def hexDigits4 (n : Nat) : List Char :=
  let digit (k : Nat) : Char := ("0123456789ABCDEF".toList)[k % 16]?.getD '0'
  [digit (n / 4096), digit (n / 256), digit (n / 16), digit n]

/-- A character of a basic string, after `quotes` quotes that were written as they are; of these there may be
`most` in a row. -/
def writeChar (onLines : Bool) (most quotes : Nat) (c : Char) : List Char :=
  match c with
  | '"' => if quotes < most then ['"'] else ['\\', '"']
  | '\\' => ['\\', '\\']
  | '\x08' => ['\\', 'b']
  | '\t' => ['\\', 't']
  | '\n' => if onLines then ['\n'] else ['\\', 'n']
  | '\x0c' => ['\\', 'f']
  | '\r' => ['\\', 'r']
  | c => if c.toNat < 0x20 || c.toNat = 0x7F then '\\' :: 'u' :: hexDigits4 c.toNat else [c]

/-- The inside of a basic string; `quotes` counts the quotes just written as they are. -/
def writeBasic (onLines : Bool) (most : Nat) : (quotes : Nat) → List Char → List Char
  | _, [] => []
  | quotes, c :: cs =>
    writeChar onLines most quotes c ++
      writeBasic onLines most (if c = '"' && quotes < most then quotes + 1 else 0) cs

/-- What stands before the inside of a string on several lines: a line break, if the string has one itself. -/
def openingBreak (s : List Char) : List Char := if s.contains '\n' then ['\n'] else []

def writeString (s : List Char) : List Char :=
  match formOf s with
  | .basic => '"' :: (writeBasic false 0 0 s ++ ['"'])
  | .literal => '\'' :: (s ++ ['\''])
  | .longBasic => "\"\"\"".toList ++ openingBreak s ++ writeBasic true 2 0 s ++ "\"\"\"".toList
  | .longLiteral => "'''".toList ++ openingBreak s ++ s ++ "'''".toList

def writeInteger (n : Int) : List Char := (toString n).toList

def writeBoolean (b : Bool) : List Char := if b then "true".toList else "false".toList

def writeArray : List (List Char) → List Char
  | [] => ['[', ']']
  | [item] => '[' :: (item ++ [']'])
  | items => '[' :: '\n' :: (items.flatMap (fun i => "    ".toList ++ i ++ [',', '\n']) ++ [']'])

def writeBinding (key : String) (value : List Char) : List Char :=
  key.toList ++ [' ', '=', ' '] ++ value ++ ['\n']

def writeTable (name : String) (bindings : List (List Char)) : List Char :=
  '[' :: (name.toList ++ [']', '\n'] ++ bindings.flatten)

def writeTables (tables : List (List Char)) : List Char := ['\n'].intercalate tables

end MediaRelay.Toml
