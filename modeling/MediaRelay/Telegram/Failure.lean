import MediaRelay.Text.Quote
/-! How calls to the Bot API fail, and how that reads. A refusal comes with a description: one that says that the
token is wrong reads as that, a description that is known reads as it is, and any other one is quoted. -/

namespace MediaRelay.Telegram

inductive Failure where
  | refused (description : String)
  /-- too many calls; the next one may come after this many seconds -/
  | flooded (wait : Nat)
  /-- the chat has become another one -/
  | migrated (chat : Int)
  /-- the connection broke before an answer came -/
  | unreachable
deriving DecidableEq, Repr, Inhabited

/-- Descriptions of a token that is not taken. -/
def tokenRefusals : List String := ["Unauthorized", "Not Found"]

def knownRefusals : List String := [
  "Forbidden: bot was blocked by the user",
  "Bad Request: message is not modified: specified new message content and reply markup are exactly the same as a " ++
    "current content and reply markup of the message",
  "Bad Request: MESSAGE_ID_INVALID",
  "Bad Request: message to forward not found",
  "Bad Request: message to delete not found",
  "Bad Request: message to copy not found",
  "Bad Request: message text is empty",
  "Bad Request: message can't be edited",
  "Bad Request: message can't be deleted",
  "Bad Request: message to edit not found",
  "Bad Request: reply message not found",
  "Bad Request: message identifier is not specified",
  "Bad Request: message is too long",
  "Bad Request: MESSAGE_TOO_LONG",
  "Bad Request: Too much messages to send as an album",
  "Bad Request: poll has already been closed",
  "Bad Request: poll must have at least 2 option",
  "Bad Request: poll can't have more than 10 options",
  "Bad Request: poll options must be non-empty",
  "Bad Request: poll question must be non-empty",
  "Bad Request: poll options length must not exceed 100",
  "Bad Request: poll question length must not exceed 255",
  "Bad Request: message with poll to stop not found",
  "Bad Request: message is not a poll",
  "Bad Request: chat not found",
  "Bad Request: user not found",
  "Bad Request: chat description is not modified",
  "Bad Request: query is too old and response timeout expired or query id is invalid",
  "Bad Request: BUTTON_URL_INVALID",
  "Bad Request: BUTTON_DATA_INVALID",
  "Bad Request: can't parse inline keyboard button: Text buttons are unallowed in the inline keyboard",
  "Bad Request: wrong file id",
  "Bad Request: wrong file identifier/HTTP URL specified",
  "Bad Request: failed to get HTTP URL content",
  "Bad Request: Photo should be uploaded as an InputFile",
  "Bad Request: STICKERSET_INVALID",
  "Bad Request: sticker set name is already occupied",
  "Bad Request: USER_IS_BOT",
  "Bad Request: invalid sticker set name is specified",
  "Bad Request: not enough rights to pin a message",
  "Bad Request: not enough rights to manage pinned messages in the chat",
  "Bad Request: not enough rights to change chat permissions",
  "Bad Request: method is available only for supergroups and channel",
  "Bad Request: can't demote chat creator",
  "Bad Request: can't restrict self",
  "Bad Request: not enough rights to restrict/unrestrict chat member",
  "Bad Request: need administrator rights in the channel chat",
  "Bad Request: not enough rights to send text messages to the chat",
  "Bad Request: bad webhook: HTTPS url must be provided for webhook",
  "Bad Request: bad webhook: Webhook can be set up only on ports 80, 88, 443 or 8443",
  "Bad Request: bad webhook: Failed to resolve host: Name or service not known",
  "Bad Request: can't parse URL",
  "Bad Request: can't use getUpdates method while webhook is active",
  "Bad Request: wrong HTTP URL",
  "Bad Request: invalid file id",
  "Unauthorized: bot was kicked from a chat",
  "Forbidden: bot was kicked from the group chat",
  "Forbidden: bot was kicked from the supergroup chat",
  "Forbidden: bot was kicked from the channel chat",
  "Forbidden: user is deactivated",
  "Forbidden: bot can't initiate conversation with a user",
  "Forbidden: bot can't send messages to bots",
  "Conflict: terminated by other getUpdates request; make sure that only one bot instance is running"]

/-- Whether a description is known, by itself or by how it begins. -/
def isKnownRefusal (description : String) : Bool :=
  knownRefusals.contains description || description.startsWith "Bad Request: can't parse entities: "

def refusalText (description : String) : String :=
  if tokenRefusals.contains description then "Invalid bot token"
  else if isKnownRefusal description then description
  else s!"Unknown error: {quoteText description}"

namespace Failure

def message : Failure → String
  | .refused description => s!"A Telegram's error: {refusalText description}"
  | .flooded wait => s!"Retry after {wait}s"
  | .migrated chat => s!"The group has been migrated to a supergroup with ID #{chat}"
  | .unreachable => "A network error: error sending request"

def causes : Failure → List String
  | .refused description => [refusalText description]
  | .flooded _ => []
  | .migrated _ => []
  | .unreachable =>
    ["error sending request", "client error (SendRequest)", "connection closed before message completed"]

end Failure
end MediaRelay.Telegram
