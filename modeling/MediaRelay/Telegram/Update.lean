import MediaRelay.Bot
import MediaRelay.Telegram.Basic
/-! Updates of the Bot API. Only a new text message of a user who may talk to the bot is a message for it. -/

namespace MediaRelay.Telegram

structure Update where
  /-- none for what a channel posts -/
  sender : Option Nat
  chat : Int
  id : Int
  /-- none for messages of other kinds -/
  text : Option String
  /-- an earlier message was changed -/
  isEdit : Bool := false
deriving DecidableEq, Repr, Inhabited

/-- Whether a user may talk to the bot. Everyone may, if nobody is named. -/
def mayTalk (allowed : List Nat) (user : Nat) : Bool := allowed.isEmpty || allowed.contains user

def Update.message? (allowed : List Nat) (u : Update) : Option Message :=
  if u.isEdit then none
  else match u.sender, u.text with
    | some user, some text =>
      if mayTalk allowed user then some ⟨userId user, u.chat, toString u.id, text⟩ else none
    | _, _ => none

end MediaRelay.Telegram
