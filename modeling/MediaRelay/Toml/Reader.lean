import MediaRelay.Toml.Quoted
import MediaRelay.Toml.Scalar
import MediaRelay.Toml.Entry
/-! Reading TOML. Arrays and inline tables may be nested up to a limit, and so may dotted keys. -/

namespace MediaRelay.Toml

/-- Arrays and inline tables nest less deep than this, and keys have fewer parts. -/
def nestingLimit : Nat := 80

def isBareKeyChar (c : Char) : Bool := c.isAlphanum || c = '_' || c = '-'

def keyPart? (s : List Char) : Option (String × List Char) :=
  match s with
  | '"' :: _ => (shortString? s).map fun (k, rest) => (String.ofList k, rest)
  | '\'' :: _ => (shortString? s).map fun (k, rest) => (String.ofList k, rest)
  | s =>
    match Text.span isBareKeyChar s with
    | ([], _) => none
    | (k, rest) => some (String.ofList k, rest)

/-- The parts of a key between dots, at most `room`, with blanks around each dropped. -/
def key? : (room : Nat) → List Char → Option (List String × List Char)
  | 0, _ => none
  | room + 1, s =>
    match keyPart? (s.dropWhile isBlank) with
    | none => none
    | some (k, rest) =>
      match rest.dropWhile isBlank with
      | '.' :: rest => (key? room rest).map fun (ks, rest) => (k :: ks, rest)
      | rest => some ([k], rest)

def keyPath? (s : List Char) : Option (List String × List Char) := key? (nestingLimit - 1) s

def skipFiller (s : List Char) : List Char :=
  match s with
  | ' ' :: rest => skipFiller rest
  | '\t' :: rest => skipFiller rest
  | '\n' :: rest => skipFiller rest
  | '\r' :: '\n' :: rest => skipFiller rest
  | '#' :: rest => skipFiller (rest.dropWhile isPlain)
  | s => s
termination_by s.length
decreasing_by
  all_goals simp only [List.length_cons]
  · omega
  · omega
  · omega
  · omega
  · have := Text.length_dropWhile_le isPlain rest
    omega

abbrev ReaderOf (α : Type) := List Char → Option (α × List Char)

/-- The items of an array after its bracket or a comma, where `done` holds those before, last first. -/
def itemsFrom (value : ReaderOf Toml) (done : List Toml) (s : List Char) : Option (Toml × List Char) :=
  match skipFiller s with
  | ']' :: rest => some (.array done.reverse, rest)
  | s' =>
    match value s' with
    | none => none
    | some (v, rest) =>
      match skipFiller rest with
      | ',' :: rest' =>
        if _h : rest'.length < s.length then itemsFrom value (v :: done) rest' else none
      | ']' :: rest' => some (.array (v :: done).reverse, rest')
      | _ => none
termination_by s.length

def binding? (value : ReaderOf Toml) (s : List Char) : Option (List String × Toml × List Char) :=
  match keyPath? s with
  | some (path, '=' :: rest) => (value (rest.dropWhile isBlank)).map fun (v, rest) => (path, v, rest)
  | _ => none

/-- The entries of an inline table after its brace or a comma. -/
def entriesFrom (value : ReaderOf Toml) (es : Entries) (s : List Char) : Option (Toml × List Char) :=
  match binding? value (s.dropWhile isBlank) with
  | none => none
  | some (path, v, rest) =>
    match es.insert path v false with
    | none => none
    | some es =>
      match rest.dropWhile isBlank with
      | ',' :: rest' => if _h : rest'.length < s.length then entriesFrom value es rest' else none
      | '\x7d' :: rest' => some (.table (Entry.tableOf es), rest')
      | _ => none
termination_by s.length

/-- A value in which at most `room` arrays and inline tables lie in one another. -/
def valueWithin : (room : Nat) → ReaderOf Toml
  | room, s =>
    match s with
    | '"' :: _ => (quoted? s).map fun (t, rest) => (.string (String.ofList t), rest)
    | '\'' :: _ => (quoted? s).map fun (t, rest) => (.string (String.ofList t), rest)
    | '[' :: rest =>
      match room with
      | 0 => none
      | room + 1 => itemsFrom (valueWithin room) [] rest
    | '\x7b' :: rest =>
      match room with
      | 0 => none
      | room + 1 =>
        match rest.dropWhile isBlank with
        | '\x7d' :: rest => some (.table [], rest)
        | rest => entriesFrom (valueWithin room) [] rest
    | s => scalar? s

def value? : ReaderOf Toml := valueWithin (nestingLimit - 1)

def lineEnd? (s : List Char) : Option (List Char) :=
  let s := match s.dropWhile isBlank with
    | '#' :: rest => rest.dropWhile isPlain
    | s => s
  match s with
  | [] => some []
  | s => afterBreak? s

/-- A document as far as it has been read: all tables, and the path of the one that is open. -/
structure Draft where
  root : Entries := []
  current : List String := []

namespace Draft

def header? (inRow : Bool) (d : Draft) (s : List Char) : Option (Draft × List Char) := do
  let (path, rest) ← keyPath? s
  let rest ← Text.stripPrefix? (if inRow then [']', ']'] else [']']) rest
  return ({ root := ← Entries.openAt inRow path d.root, current := path }, rest)

def bind? (d : Draft) (path : List String) (v : Toml) : Option Draft :=
  (Entries.descend false (Entries.insert path v) d.current false d.root).map fun root => { d with root }

def line? (d : Draft) (s : List Char) : Option (Draft × List Char) :=
  match s with
  | '[' :: '[' :: rest => d.header? true rest
  | '[' :: rest => d.header? false rest
  | s => do
    let (path, v, rest) ← binding? value? s
    return (← d.bind? path v, rest)

def lines? (d : Draft) (s : List Char) : Option Draft :=
  match s.dropWhile isBlank with
  | [] => some d
  | c :: cs =>
    let read := if c = '#' || c = '\n' || c = '\r' then some (d, c :: cs) else d.line? (c :: cs)
    match read with
    | none => none
    | some (d, rest) =>
      match lineEnd? rest with
      | none => none
      | some rest => if _h : rest.length < s.length then lines? d rest else none
termination_by s.length

end Draft

/-- Reads a document; a byte order mark before it is dropped. -/
def parse? (text : String) : Option Toml :=
  let s := match text.toList with
    | '\uFEFF' :: rest => rest
    | s => s
  (Draft.lines? {} s).map fun d => .table (Entry.tableOf d.root)

end MediaRelay.Toml
