import MediaRelay.Word
import MediaRelay.Json.Basic
/-! Decoding trees into records. A decoder walks a tree in text order and stops at the first fault, which is
one of form when the text is not sound JSON there and one of content when it is sound but not what is wanted.
A record is written as an object, where unknown members are skipped and a known one may come only once, or as
an array of its fields in order. Only what is decoded counts against the nesting limit, not what is skipped. -/

namespace MediaRelay.Json

inductive Fault where
  /-- not JSON, or JSON that cannot be held -/
  | form
  /-- JSON of the wrong shape -/
  | content
deriving DecidableEq, Repr

/-- Containers may be nested this deep where they are decoded. -/
def maxDepth : Nat := 127

abbrev Decoder (α : Type) := Nat → Json → Except Fault α

def unwanted : Json → Fault
  | .broken => .form
  | .string none => .form
  | .number (.real false) => .form
  | _ => .content

mutual

/-- A tree without the leaf where the text broke off. -/
def unbroken : Json → Bool
  | .broken => false
  | .array items => unbrokenItems items
  | .object members => unbrokenMembers members
  | _ => true

def unbrokenItems : List Json → Bool
  | [] => true
  | v :: vs => unbroken v && unbrokenItems vs

def unbrokenMembers : List (Option String × Json) → Bool
  | [] => true
  | (_, v) :: ms => unbroken v && unbrokenMembers ms

end

mutual

/-- A tree that can be held as a value below `depth` open containers: all strings are text, all numbers in
range, and the nesting within the limit. -/
def holdable (depth : Nat) : Json → Bool
  | .broken => false
  | .string none => false
  | .number (.real false) => false
  | .array items => depth < maxDepth && holdableItems (depth + 1) items
  | .object members => depth < maxDepth && holdableMembers (depth + 1) members
  | _ => true

def holdableItems (depth : Nat) : List Json → Bool
  | [] => true
  | v :: vs => holdable depth v && holdableItems depth vs

def holdableMembers (depth : Nat) : List (Option String × Json) → Bool
  | [] => true
  | (k, v) :: ms => k.isSome && holdable depth v && holdableMembers depth ms

end

def decodeString : Decoder String
  | _, .string (some s) => .ok s
  | _, j => .error (unwanted j)

def decodeBool : Decoder Bool
  | _, .bool b => .ok b
  | _, j => .error (unwanted j)

def decodeInt (lo hi : Int) : Decoder Int
  | _, .number (.integer n) => if lo ≤ n ∧ n ≤ hi then .ok n else .error .content
  | _, j => .error (unwanted j)

def decodeUnsigned : Decoder Nat := fun depth j => (decodeInt 0 Word.maxUnsigned depth j).map Int.toNat

def decodeSigned : Decoder Int := decodeInt Word.minSigned Word.maxSigned

def decodeOption {α : Type} (dec : Decoder α) : Decoder (Option α)
  | _, .null => .ok none
  | depth, j => (dec depth j).map some

/-- Decodes items in order; `done` holds the earlier ones, last first. -/
def decodeItemsFrom {α : Type} (dec : Decoder α) (depth : Nat) (done : List α) :
    List Json → Except Fault (List α)
  | [] => .ok done.reverse
  | v :: vs =>
    match dec depth v with
    | .error f => .error f
    | .ok a => decodeItemsFrom dec depth (a :: done) vs

def decodeItems {α : Type} (dec : Decoder α) (depth : Nat) (items : List Json) : Except Fault (List α) :=
  decodeItemsFrom dec depth [] items

def decodeList {α : Type} (dec : Decoder α) : Decoder (List α)
  | depth, .array items => if depth < maxDepth then decodeItems dec (depth + 1) items else .error .form
  | _, j => .error (unwanted j)

inductive Absence where
  /-- no -/
  | refused
  /-- from an object, but an array must name it -/
  | fromObject
  /-- yes -/
  | allowed
deriving DecidableEq

structure Slot where
  name : String
  check : Nat → Json → Except Fault Unit
  absence : Absence

def Slot.of {α : Type} (name : String) (dec : Decoder α) (absence : Absence) : Slot :=
  ⟨name, fun depth j => (dec depth j).map fun _ => (), absence⟩

/-- Checks members in text order and keeps the known ones. -/
def scanMembers (slots : List Slot) (depth : Nat) (seen : List (String × Json)) :
    List (Option String × Json) → Except Fault (List (String × Json))
  | [] =>
    if slots.all fun s => s.absence != .refused || (seen.lookup s.name).isSome then .ok seen
    else .error .content
  | (none, _) :: _ => .error .form
  | (some key, v) :: rest =>
    match slots.find? (·.name == key) with
    | none => if unbroken v then scanMembers slots depth seen rest else .error .form
    | some slot =>
      if (seen.lookup key).isSome then .error .content
      else match slot.check depth v with
        | .error f => .error f
        | .ok () => scanMembers slots depth ((key, v) :: seen) rest

/-- Checks the items of a record written as an array. -/
def scanItems (depth : Nat) (seen : List (String × Json)) :
    List Slot → List Json → Except Fault (List (String × Json))
  | [], [] => .ok seen
  | [], _ :: _ => .error .form
  | slots, [] => if slots.all fun s => s.absence == .allowed then .ok seen else .error .content
  | slot :: slots, v :: vs =>
    match slot.check depth v with
    | .error f => .error f
    | .ok () => scanItems depth ((slot.name, v) :: seen) slots vs

def fields (slots : List Slot) : Decoder (List (String × Json))
  | depth, .object members =>
    if depth < maxDepth then scanMembers slots (depth + 1) [] members else .error .form
  | depth, .array items =>
    if depth < maxDepth then scanItems (depth + 1) [] slots items else .error .form
  | _, j => .error (unwanted j)

/-- The value of a field among those found, or what stands in for it. -/
def field {α : Type} (found : List (String × Json)) (name : String) (dec : Decoder α) (depth : Nat)
    (absent : Except Fault α) : Except Fault α :=
  match found.lookup name with
  | some j => dec (depth + 1) j
  | none => absent

/-- A whole document: a value with nothing but blanks after it. -/
def decodeDocument {α : Type} (dec : Decoder α) (value : Json) (trailing : Bool) : Except Fault α :=
  match dec 0 value with
  | .error f => .error f
  | .ok a => if trailing then .error .form else .ok a

end MediaRelay.Json
