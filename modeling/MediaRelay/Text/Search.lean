import MediaRelay.Text.Blank
/-! Searching in text from left to right. The functions here go through a text in constant stack space, since
they are used on whole pages. -/

namespace MediaRelay.Text

/-- The result of `f` at the leftmost place where it has one, the end of the text included. -/
def firstMatch {α : Type} (f : List Char → Option α) : List Char → Option α
  | [] => f []
  | c :: cs =>
    match f (c :: cs) with
    | some a => some a
    | none => firstMatch f cs

/-- Whether `piece` stands somewhere in a text. -/
def holds (piece s : List Char) : Bool := (firstMatch (stripPrefix? piece) s).isSome

/-- Replaces `old` in what is left of a text, from left to right. `skip` characters still belong to an
occurrence that was replaced; `acc` is the text so far, last character first. -/
def replaceFrom (old new : List Char) (skip : Nat) (acc : List Char) : List Char → List Char
  | [] => acc.reverse
  | c :: cs =>
    match skip with
    | skip + 1 => replaceFrom old new skip acc cs
    | 0 =>
      if old.isPrefixOf (c :: cs) then replaceFrom old new (old.length - 1) (new.reverse ++ acc) cs
      else replaceFrom old new 0 (c :: acc) cs

def replace (old new s : List Char) : List Char := replaceFrom old new 0 [] s

/-- Splits before the first character that is not in the class; `acc` is the front so far, last first. -/
def spanFrom (p : Char → Bool) (acc : List Char) : List Char → List Char × List Char
  | [] => (acc.reverse, [])
  | c :: cs => if p c then spanFrom p (c :: acc) cs else (acc.reverse, c :: cs)

/-- The longest prefix in a class, and the rest. -/
def span (p : Char → Bool) (s : List Char) : List Char × List Char := spanFrom p [] s

def splitAt (sep : Char) : List Char → List (List Char)
  | [] => [[]]
  | c :: cs =>
    if c = sep then [] :: splitAt sep cs
    else match splitAt sep cs with
      | [] => [[c]]
      | p :: ps => (c :: p) :: ps

end MediaRelay.Text
