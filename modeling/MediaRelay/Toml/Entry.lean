import MediaRelay.Toml.Basic
/-! Tables while they are read. A table is defined once: by its header, or bit by bit by dotted keys, and what has been
defined one way cannot be added to in the other. -/

namespace MediaRelay.Toml

inductive Entry where
  | value (v : Toml)
  /-- a table: whether no header of its own has named it, and whether dotted keys made it -/
  | section (isImplicit isDotted : Bool) (entries : List (String × Entry))
  /-- tables in a row, made by headers in double brackets; the last one first -/
  | rows (tables : List (List (String × Entry)))
deriving Inhabited

abbrev Entries := List (String × Entry)

namespace Entry

mutual

def toToml : Entry → Toml
  | .value v => v
  | .section _ _ entries => .table (tableOf entries)
  | .rows tables => .array (rowsOf tables [])

def tableOf : List (String × Entry) → List (String × Toml)
  | [] => []
  | (k, e) :: rest => (k, toToml e) :: tableOf rest

/-- Rows in the order of the text, before those in `done`. -/
def rowsOf : List (List (String × Entry)) → List Toml → List Toml
  | [], done => done
  | t :: ts, done => rowsOf ts (.table (tableOf t) :: done)

end

end Entry

namespace Entries

/-- Puts an entry in place of the one under its key, or at the end. -/
def put (key : String) (e : Entry) : Entries → Entries
  | [] => [(key, e)]
  | (k, old) :: rest => if k = key then (key, e) :: rest else (k, old) :: put key e rest

/-- Changes the table at the end of a path, whose tables are made where they are missing. `byDots` tells a path of
dotted keys from one of a header: dotted keys only pass through tables that no header has named. `change` is told
whether dotted keys made the table. -/
def descend (byDots : Bool) (change : Bool → Entries → Option Entries) :
    (path : List String) → (isDotted : Bool) → Entries → Option Entries
  | [], isDotted, es => change isDotted es
  | key :: path, _, es =>
    match es.lookup key with
    | none => (descend byDots change path byDots []).map fun sub => es ++ [(key, .section true byDots sub)]
    | some (.value _) => none
    | some (.section isImplicit isDotted sub) =>
      if byDots && !isImplicit then none
      else (descend byDots change path isDotted sub).map fun sub => es.put key (.section isImplicit isDotted sub)
    | some (.rows []) => none
    | some (.rows (last :: earlier)) =>
      (descend byDots change path false last).map fun last => es.put key (.rows (last :: earlier))

/-- Adds a value under a new key. A table that dotted keys made takes values from dotted keys only, and other
tables from plain keys. -/
def add (isPlain : Bool) (key : String) (v : Toml) (isDotted : Bool) (es : Entries) : Option Entries :=
  if isDotted = isPlain || (es.lookup key).isSome then none else some (es ++ [(key, .value v)])

def insert (path : List String) (v : Toml) (isDotted : Bool) (es : Entries) : Option Entries :=
  match path.getLast? with
  | none => none
  | some key => descend true (add path.dropLast.isEmpty key v) path.dropLast isDotted es

/-- Opens the table that a header names; a table that only longer headers have implied may be opened once. -/
def openTable (key : String) (es : Entries) : Option Entries :=
  match es.lookup key with
  | none => some (es ++ [(key, .section false false [])])
  | some (.section true false sub) => some (es.put key (.section false false sub))
  | some _ => none

def openRow (key : String) (es : Entries) : Option Entries :=
  match es.lookup key with
  | none => some (es ++ [(key, .rows [[]])])
  | some (.rows tables) => some (es.put key (.rows ([] :: tables)))
  | some _ => none

def openAt (inRow : Bool) (path : List String) (es : Entries) : Option Entries :=
  match path.getLast? with
  | none => none
  | some key =>
    descend false (fun _ es => if inRow then openRow key es else openTable key es) path.dropLast false es

end Entries
end MediaRelay.Toml
