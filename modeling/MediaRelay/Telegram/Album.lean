import MediaRelay.Transport.Attachment
/-! Albums: how attachments are put together into messages. Documents do not go with photos and videos, and no album
has more than ten entries. -/

namespace MediaRelay.Telegram

def albumLimit : Nat := 10

/-- Cuts a list into pieces of `n`, the last of which may be shorter. -/
def inPieces {α : Type} (n : Nat) (l : List α) : List (List α) :=
  match l with
  | [] => []
  | a :: rest => (a :: rest.take (n - 1)) :: inPieces n (rest.drop (n - 1))
termination_by l.length
decreasing_by simp only [List.length_drop, List.length_cons]; omega

def isDocument (a : Attachment) : Bool := a.kind == .document

/-- Photos and videos in their order, then documents in theirs, in albums. -/
def albums (attachments : List Attachment) : List (List Attachment) :=
  inPieces albumLimit (attachments.filter fun a => !isDocument a) ++
    inPieces albumLimit (attachments.filter isDocument)

end MediaRelay.Telegram
