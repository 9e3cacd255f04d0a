import MediaRelay.Text.Blank
import MediaRelay.Text.Case
import MediaRelay.Text.Search
import MediaRelay.Decimal.Unsigned
/-! Which texts are schedules: six fields between blanks, for seconds, minutes, hours, days of the month, months and
days of the week, or a word that stands for a common schedule. -/

namespace MediaRelay.Cron

structure Field where
  least : Nat
  most : Nat
  /-- `5#2` for the second of a kind, `5L` for the last -/
  ordinals : Bool := false
  /-- `L` for the last -/
  last : Bool := false
  /-- `15W` for the weekday next to the fifteenth -/
  nearest : Bool := false
  /-- a question mark stands for a star -/
  question : Bool := false

def fields : List Field := [
  { least := 0, most := 59 },
  { least := 0, most := 59 },
  { least := 0, most := 23 },
  { least := 1, most := 31, last := true, nearest := true, question := true },
  { least := 1, most := 12 },
  { least := 0, most := 7, last := true, ordinals := true, question := true }]

def number? (s : List Char) : Option Nat := (Decimal.unsigned? s).filter (· < 256)

/-- The text before the ordinal mark, if what follows the mark is in order. -/
def withoutOrdinal? (f : Field) (s : List Char) : Option (List Char) :=
  match Text.span (· ≠ '#') s with
  | (s, []) => some s
  | (s, _ :: nth) =>
    if !f.ordinals then none
    else if nth.getLast? = some 'l' then some s
    else match number? nth with
      | some n => if 1 ≤ n && n ≤ 5 then some s else none
      | none => none

/-- Numbers in order and within the field. -/
def Field.holds (f : Field) (first last : Nat) : Bool := f.least ≤ first && first ≤ last && last ≤ f.most

def Field.acceptsRange (f : Field) (s : List Char) : Bool :=
  match (Text.splitAt '-' s).map fun n => number? (Text.trim n) with
  | [some first, some last] => f.holds first last
  | _ => false

/-- What stands before a step: a star, a range, or the number with which the steps begin. -/
def Field.acceptsBase (f : Field) (s : List Char) : Bool :=
  if s = ['*'] then true
  else if s.contains '-' then f.acceptsRange s
  else (number? s).any fun n => f.holds n f.most

def Field.acceptsSteps (f : Field) (s : List Char) : Bool :=
  match Text.splitAt '/' s with
  | [base, step] => (number? step).any (0 < ·) && f.acceptsBase base
  | _ => false

/-- A number with `l` for the last of its kind, written with an ordinal mark. -/
def markLast (s : List Char) : List Char :=
  if s.getLast? = some 'l' && !s.contains '#' then s.dropLast ++ ['#', 'l'] else s

/-- One entry of a field, in lower case and without blanks. -/
def Field.acceptsEntry (f : Field) (s : List Char) : Bool :=
  if s.contains '/' then ((withoutOrdinal? f s).map f.acceptsSteps).getD false
  else if s.contains '-' then ((withoutOrdinal? f s).map f.acceptsRange).getD false
  else if s.contains 'w' then
    f.nearest && (number? (s.takeWhile (· ≠ 'w'))).any fun n => f.holds n n
  else if s = ['l'] then f.last
  else
    match withoutOrdinal? f (markLast s) with
    | some s => (number? s).any fun n => f.holds n n
    | none => false

/-- A field: a star, or entries between commas, of which some may be empty. -/
def Field.accepts (f : Field) (s : List Char) : Bool :=
  let s := if f.question then s.map fun c => if c = '?' then '*' else c else s
  s = ['*'] || ((Text.splitAt ',' s).filter (!·.isEmpty)).all f.acceptsEntry

def nicknames : List (String × String) := [
  ("@yearly", "0 0 1 1 *"), ("@annually", "0 0 1 1 *"), ("@monthly", "0 0 1 * *"), ("@weekly", "0 0 * * 0"),
  ("@daily", "0 0 * * *"), ("@hourly", "0 * * * *")]

/-- Names of days and months, with the numbers that they stand for. A week may end on a Sunday. -/
def names : List (String × String) := [
  ("-sun", "-7"), ("sun", "0"), ("mon", "1"), ("tue", "2"), ("wed", "3"), ("thu", "4"), ("fri", "5"), ("sat", "6"),
  ("jan", "1"), ("feb", "2"), ("mar", "3"), ("apr", "4"), ("may", "5"), ("jun", "6"), ("jul", "7"), ("aug", "8"),
  ("sep", "9"), ("oct", "10"), ("nov", "11"), ("dec", "12")]

/-- The text in lower case, with words and names replaced. -/
def spelledOut (s : List Char) : List Char :=
  let s := Text.lower (Text.trim s)
  let s := match nicknames.lookup (String.ofList s) with
    | some fields => "0 ".toList ++ fields.toList
    | none => if s.contains '@' then "0 ".toList ++ s else s
  names.foldl (fun s (name, n) => Text.replace name.toList n.toList s) s

def accepts (text : String) : Bool :=
  let entries := Text.words (spelledOut text.toList)
  entries.length = fields.length && (fields.zip entries).all fun (f, s) => f.accepts s

def failure (job : String) : String := s!"Failed to create cron job: {job}"

end MediaRelay.Cron
