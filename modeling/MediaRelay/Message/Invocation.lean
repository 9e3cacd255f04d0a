import MediaRelay.Text.Blank
/-! Reading a message as a command: the prefix, a name, and arguments between blanks. -/

namespace MediaRelay

structure Invocation where
  name : String
  args : List String
deriving DecidableEq, Repr

/-- Reads `<prefix>name argument ...`, with blanks around the message dropped. A message that is nothing but
the prefix calls no command. -/
def parseInvocation (text commandPrefix : String) : Option Invocation :=
  match Text.stripPrefix? commandPrefix.toList (Text.trim text.toList) with
  | none => none
  | some rest =>
    match Text.words rest with
    | [] => none
    | name :: args => some ⟨String.ofList name, args.map String.ofList⟩

end MediaRelay
