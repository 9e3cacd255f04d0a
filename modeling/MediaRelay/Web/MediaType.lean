import MediaRelay.Text.Search
/-! Content types: a type and a subtype, perhaps with a suffix, and parameters that have to be well formed. -/

namespace MediaRelay.Web

structure MediaType where
  type : String
  /-- up to the last plus sign -/
  subtype : String
  suffix : Option String
deriving DecidableEq, Repr

namespace MediaType

def isTokenChar (c : Char) : Bool := c.isAlphanum || "!#$%&'*+-.^_`|~".toList.contains c

def isToken (s : List Char) : Bool := !s.isEmpty && s.all isTokenChar

/-- A character between quotes. -/
def isQuotedChar (c : Char) : Bool := 0x20 ≤ c.toNat && c.toNat < 0x7F && c ≠ '"'

/-- What follows a parameter's value: nothing, or a semicolon and more. -/
def afterValue? (s : List Char) : Option (List Char) :=
  match Text.stripPrefix? ['"'] s with
  | some inside =>
    match Text.span isQuotedChar inside with
    | ([], _) => none
    | (_, '"' :: rest) =>
      match rest.dropWhile (· = ' ') with
      | [] => some []
      | ';' :: rest => some rest
      | _ => none
    | _ => none
  | none =>
    match Text.span isTokenChar s with
    | (_, []) => some []
    | (_ :: _, ';' :: rest) => some rest
    | _ => none

/-- Whether a text is a list of parameters; `room` bounds their number. -/
def areParameters : (room : Nat) → List Char → Bool
  | 0, s => s.isEmpty
  | room + 1, s =>
    match s.dropWhile (· = ' ') with
    | [] => true
    | s =>
      match Text.span isTokenChar s with
      | (_ :: _, '=' :: value) =>
        match afterValue? value with
        | some rest => areParameters room rest
        | none => false
      | _ => false

/-- The part before the last plus sign that is not the first character, and the part after it. -/
def splitSuffix (s : List Char) : List Char × Option (List Char) :=
  match s with
  | [] => ([], none)
  | first :: rest =>
    let back := rest.reverse
    match Text.span (· ≠ '+') back with
    | (suffix, '+' :: front) => (first :: front.reverse, some suffix.reverse)
    | _ => (s, none)

def parse? (text : String) : Option MediaType :=
  match Text.span (· ≠ '/') text.toList with
  | (type, '/' :: rest) =>
    let (name, params) := Text.span (· ≠ ';') rest
    if isToken type && isToken name && areParameters text.length (params.drop 1) then
      let (subtype, suffix) := splitSuffix (name.map Char.toLower)
      some { type := String.ofList (type.map Char.toLower), subtype := String.ofList subtype
             suffix := suffix.map String.ofList }
    else none
  | _ => none

def isJson (m : MediaType) : Bool :=
  m.type = "application" && (m.subtype = "json" || m.suffix = some "json")

end MediaType
end MediaRelay.Web
