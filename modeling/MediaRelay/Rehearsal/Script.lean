import MediaRelay.Transport.Basic
import MediaRelay.Text.Utf8
/-! A platform that follows a script: which of its calls are refused, which die, and which fire the stop token.
Payloads are named by their label, the bytes as text or, when they are many, their number. -/

namespace MediaRelay.Rehearsal

inductive Aftermath where
  | hangs
  | succeeds
  | refuses
deriving DecidableEq, Repr, Inhabited

structure Script where
  selfId : Int := 999
  textLimit : Option Nat := none
  /-- how many of the next texts are refused -/
  textFail : Nat := 0
  /-- how many of the next attachment sends are refused -/
  sendFail : Nat := 0
  /-- for a label, how many of the next uploads are refused -/
  uploadFail : List (String × Nat) := []
  uploadMissing : List String := []
  uploadCrash : List String := []
  uploadStop : List String := []
  /-- the number, from one, of the text that fires the token -/
  textStop : Option Nat := none
  sendStop : Option Nat := none
  aftermath : Aftermath := .hangs
  /-- texts so far -/
  texts : Nat := 0
  /-- attachment sends so far -/
  sends : Nat := 0
deriving Inhabited

def labelOf (data : ByteArray) : String :=
  if data.size ≤ 64 then textOfBytes data else s!"<{data.size} bytes>"

/-- What a call gives that fires the token and would else give `a`. -/
def Aftermath.answer {α : Type} (after : Aftermath) (a : α) : Answer α :=
  match after with
  | .hangs => .unanswered
  | .succeeds => .accepted a true
  | .refuses => .refused (.rejected "cancelled meanwhile") true

namespace Script

def sendText (s : Script) : Answer Unit × Script :=
  let s := { s with texts := s.texts + 1 }
  if s.textStop = some s.texts then (s.aftermath.answer (), s)
  else match s.textFail with
    | 0 => (.accepted () false, s)
    | n + 1 => (.refused (.rejected "text refused") false, { s with textFail := n })

def sendAttachments (s : Script) : Answer Unit × Script :=
  let s := { s with sends := s.sends + 1 }
  if s.sendStop = some s.sends then (s.aftermath.answer (), s)
  else match s.sendFail with
    | 0 => (.accepted () false, s)
    | n + 1 => (.refused (.rejected "send refused") false, { s with sendFail := n })

/-- One refusal fewer for a label, if any is left. -/
def takeFailure (label : String) : List (String × Nat) → Option (List (String × Nat))
  | [] => none
  | (l, n) :: rest =>
    if l = label then
      match n with
      | 0 => none
      | n + 1 => some ((l, n) :: rest)
    else (takeFailure label rest).map ((l, n) :: ·)

def upload (s : Script) (p : Payload) : Answer Attachment × Script :=
  let label := labelOf p.data
  let a : Attachment := ⟨"att-" ++ label, .ofMime p.mime⟩
  if s.uploadCrash.contains label then (.crashed, s)
  else if s.uploadMissing.contains label then (.refused .missingAttachment false, s)
  else match takeFailure label s.uploadFail with
    | some left =>
      (.refused (.rejected s!"upload of {label} refused") false, { s with uploadFail := left })
    | none => if s.uploadStop.contains label then (s.aftermath.answer a, s) else (.accepted a false, s)

/-- A new script in place of what is left of this one. The identity of the platform stays. -/
def replaceBy (s new : Script) : Script := { new with selfId := s.selfId, textLimit := s.textLimit }

end Script

instance : Transport Script where
  selfId := Script.selfId
  textLimit := Script.textLimit
  sendText _ _ s := s.sendText
  upload _ p s := s.upload p
  sendAttachments _ _ s := s.sendAttachments

end MediaRelay.Rehearsal
