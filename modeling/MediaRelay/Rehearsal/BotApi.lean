import MediaRelay.Rehearsal.Script
import MediaRelay.Telegram.Basic
/-! A Bot API that answers from lists, one for each method. When a list is used up, calls of the method succeed. -/

namespace MediaRelay.Rehearsal

open Telegram

/-- What a call gives: the part that its method asks for is used. -/
structure ApiReply where
  id : Nat := 999
  media : SentMedia := .none
deriving Inhabited

structure BotScript where
  replies : List (String × List (Except Failure ApiReply)) := []
deriving Inhabited

namespace BotScript

/-- The next answer of a method, if there is one, and what is left. -/
def next? (method : String) :
    List (String × List (Except Failure ApiReply)) →
      Option (Except Failure ApiReply) × List (String × List (Except Failure ApiReply))
  | [] => (none, [])
  | (m, replies) :: rest =>
    if m = method then
      match replies with
      | [] => (none, (m, []) :: rest)
      | r :: replies => (some r, (m, replies) :: rest)
    else
      let (r, rest) := next? method rest
      (r, (m, replies) :: rest)

def take (method : String) (dflt : ApiReply) (s : BotScript) : Except Failure ApiReply × BotScript :=
  let (r, replies) := next? method s.replies
  (r.getD (.ok dflt), { replies })

/-- The id of a file that the script gives none. -/
def idOf : InputFile → String
  | .stored id => "id-" ++ id
  | .enclosed _ data => "id-" ++ labelOf data

/-- The media of a message that the script says nothing of. -/
def mediaOf : Content → SentMedia
  | .file .photo file => .photo ["small", idOf file]
  | .file .video file => .video (idOf file)
  | .file .document file => .document (idOf file)
  | _ => .none

end BotScript

instance : BotApi BotScript where
  getMe s :=
    let (r, s) := s.take "getMe" {}
    (r.map ApiReply.id, s)
  send call s :=
    let (r, s) := s.take call.content.method { media := BotScript.mediaOf call.content }
    (r.map ApiReply.media, s)

end MediaRelay.Rehearsal
