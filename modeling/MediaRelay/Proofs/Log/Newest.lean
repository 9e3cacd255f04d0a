import Mathlib.Data.List.DropRight
import Mathlib.Data.List.Forall2
import Mathlib.Logic.Function.Basic
import MediaRelay.Log.Buffer
import MediaRelay.Proofs.Text.Search
/-! What a log keeps. Its writers are told apart by numbers, and are written to and dropped in any
order. The lines kept are the newest ones of all the events stored so far: what an event is comes
from its bytes alone, wherever they were cut, and there is never a line more than there is room. -/

namespace MediaRelay

namespace Log

/-! ### The lines of a text -/

section

variable {line text : List Char} {lines : List (List Char)}

/-- A text and its lines. A line ends with a line feed, and a carriage return before it belongs to
the end. The last line may do without. -/
inductive IsLines : List Char → List (List Char) → Prop
  | nil : IsLines [] []
  | last {line : List Char} (hne : line ≠ []) (hline : '\n' ∉ line) : IsLines line [line]
  | feed {line text : List Char} {lines : List (List Char)} (hline : '\n' ∉ line)
      (hlast : line.getLast? ≠ some '\r') (rest : IsLines text lines) :
      IsLines (line ++ '\n' :: text) (line :: lines)
  | returnFeed {line text : List Char} {lines : List (List Char)} (hline : '\n' ∉ line)
      (rest : IsLines text lines) : IsLines (line ++ '\r' :: '\n' :: text) (line :: lines)

theorem linesFrom_eq (done : List (List Char)) (here text : List Char) :
    linesFrom done here text = done.reverse ++ linesFrom [] here text := by
  induction text generalizing done here with
  | nil =>
    unfold linesFrom
    split_ifs <;> simp
  | cons c text ih =>
    unfold linesFrom
    split_ifs
    · rw [ih, ih [_]]
      simp
    · exact ih done (c :: here)

theorem linesFrom_append {here : List Char} (hline : '\n' ∉ line) (text : List Char) :
    linesFrom [] here (line ++ text) = linesFrom [] (line.reverse ++ here) text := by
  induction line generalizing here with
  | nil => rfl
  | cons c line ih =>
    obtain ⟨hc, hline⟩ : '\n' ≠ c ∧ '\n' ∉ line := by simpa using hline
    rw [List.cons_append, linesFrom, if_neg hc.symm, ih hline]
    simp

theorem linesOf_last (hne : line ≠ []) (hline : '\n' ∉ line) : linesOf line = [line] := by
  have h : linesOf (line ++ []) = linesFrom [] (line.reverse ++ []) [] := linesFrom_append hline []
  rw [List.append_nil, List.append_nil] at h
  rw [h, linesFrom]
  simp [hne]

theorem linesOf_feed (hline : '\n' ∉ line) (text : List Char) :
    linesOf (line ++ '\n' :: text) = lineOf line.reverse :: linesOf text := by
  rw [linesOf, linesFrom_append hline, List.append_nil, linesFrom, if_pos rfl, linesFrom_eq]
  rfl

theorem lineOf_reverse (h : line.getLast? ≠ some '\r') : lineOf line.reverse = line := by
  cases hline : line.reverse with
  | nil => rw [List.reverse_eq_nil_iff.1 hline]; rfl
  | cons c before =>
    have hc : c ≠ '\r' := by
      rintro rfl
      rw [List.getLast?_eq_head?_reverse, hline] at h
      exact h rfl
    rw [← List.reverse_reverse line, hline]
    unfold lineOf
    split
    · next heq => exact absurd (List.cons.inj heq).1 hc
    · rfl

theorem lineOf_reverse_return (line : List Char) : lineOf (line ++ ['\r']).reverse = line := by
  rw [List.reverse_append]
  exact List.reverse_reverse line

theorem not_mem_append_return (hline : '\n' ∉ line) : '\n' ∉ line ++ ['\r'] := by
  simpa using hline

theorem IsLines.linesOf_eq (h : IsLines text lines) : linesOf text = lines := by
  induction h with
  | nil => rfl
  | last hne hline => exact linesOf_last hne hline
  | feed hline hlast _ ih => rw [linesOf_feed hline, lineOf_reverse hlast, ih]
  | @returnFeed line text _ hline _ ih =>
    have h := linesOf_feed (not_mem_append_return hline) text
    rw [List.append_assoc] at h
    exact h.trans (by rw [lineOf_reverse_return, ih])

theorem isLines_linesOf (text : List Char) : IsLines text (linesOf text) := by
  induction hlength : text.length using Nat.strongRecOn generalizing text with
  | _ n ih =>
    subst hlength
    obtain ⟨⟨line, rest⟩, hspan⟩ : ∃ cut, Text.span (· ≠ '\n') text = cut := ⟨_, rfl⟩
    obtain ⟨hplain, hrest, htext⟩ := Text.span_eq_iff.1 hspan
    have hline : '\n' ∉ line := by
      intro h
      simpa using hplain _ h
    cases rest with
    | nil =>
      obtain rfl : text = line := htext.trans (List.append_nil line)
      by_cases hne : text = []
      · subst hne
        exact .nil
      · rw [linesOf_last hne hline]
        exact .last hne hline
    | cons c rest =>
      obtain rfl : c = '\n' := by simpa using hrest c rfl
      subst htext
      have hless : rest.length < (line ++ '\n' :: rest).length := by
        simp only [List.length_append, List.length_cons]
        omega
      have hlines := ih _ hless rest rfl
      rw [linesOf_feed hline]
      by_cases hlast : line.getLast? = some '\r'
      · obtain ⟨before, rfl⟩ := List.getLast?_eq_some_iff.1 hlast
        have hbefore : '\n' ∉ before := fun h => hline (List.mem_append_left _ h)
        rw [lineOf_reverse_return, List.append_assoc]
        exact .returnFeed hbefore hlines
      · rw [lineOf_reverse hlast]
        exact .feed hline hlast hlines

/-- A text has its lines, and no others. -/
theorem isLines_iff : IsLines text lines ↔ linesOf text = lines := by
  constructor
  · exact IsLines.linesOf_eq
  · rintro rfl
    exact isLines_linesOf text

end

/-- What an event adds to a log: the lines of its text that are not blank. -/
def IsStored (event : ByteArray) (stored : List String) : Prop :=
  ∃ lines, IsLines (textOfBytes event).toList lines ∧
    stored = (lines.filter fun line => line.any (!Text.isBlank ·)).map String.ofList

/-- An event adds its lines, and no others. -/
theorem isStored_iff {event : ByteArray} {stored : List String} :
    IsStored event stored ↔ eventLines event = stored := by
  constructor
  · rintro ⟨lines, hlines, rfl⟩
    rw [eventLines, isLines_iff.1 hlines]
  · rintro rfl
    exact ⟨_, isLines_iff.2 rfl, rfl⟩

end Log

/-! ### The newest lines -/

section

variable {α : Type}

theorem length_rtake (l : List α) (n : ℕ) : (l.rtake n).length = min n l.length := by
  rw [List.rtake, List.length_drop]
  omega

theorem rtake_append_of_rtake (l m : List α) (n : ℕ) :
    (l.rtake n ++ m).rtake n = (l ++ m).rtake n := by
  simp only [List.rtake_eq_reverse_take_reverse, List.reverse_append, List.reverse_reverse,
    List.take_append, List.take_take]
  rw [Nat.min_eq_left (Nat.sub_le n m.reverse.length)]

end

namespace LogBuffer

variable {b : LogBuffer}

theorem room_pos (b : LogBuffer) : 1 ≤ b.room := Nat.le_max_right _ _

theorem lines_push (b : LogBuffer) (line : String) :
    (b.push line).lines = (b.lines ++ [line]).rtake b.room := by
  have hroom := b.room_pos
  have hle : b.lines.length + 1 - b.room ≤ b.lines.length := by omega
  rw [List.rtake, List.length_append, List.length_singleton, List.drop_append_of_le_length hle]
  rfl

theorem pushAll_append (b : LogBuffer) (lines more : List String) :
    b.pushAll (lines ++ more) = (b.pushAll lines).pushAll more := List.foldl_append

@[simp] theorem room_pushAll (b : LogBuffer) (lines : List String) :
    (b.pushAll lines).room = b.room := by
  induction lines generalizing b with
  | nil => rfl
  | cons line lines ih => exact ih (b.push line)

/-- Adding lines one by one leaves the newest ones. -/
theorem lines_pushAll (h : b.lines.length ≤ b.room) (lines : List String) :
    (b.pushAll lines).lines = (b.lines ++ lines).rtake b.room := by
  induction lines using List.reverseRecOn with
  | nil =>
    rw [List.append_nil, List.rtake, Nat.sub_eq_zero_of_le h]
    rfl
  | append_singleton lines line ih =>
    rw [pushAll_append]
    change ((b.pushAll lines).push line).lines = _
    rw [lines_push, ih, room_pushAll, rtake_append_of_rtake, List.append_assoc]

end LogBuffer

namespace Log

/-! ### Writers side by side -/

inductive Act where
  | write (writer : ℕ) (piece : ByteArray)
  | drop (writer : ℕ)

structure Desk where
  buffer : LogBuffer
  writers : ℕ → LogWriter := fun _ => {}

namespace Desk

def step (d : Desk) : Act → Desk
  | .write i piece => { d with writers := Function.update d.writers i ((d.writers i).write piece) }
  | .drop i =>
    { buffer := (d.writers i).drop d.buffer, writers := Function.update d.writers i {} }

def run (capacity : ℕ) (acts : List Act) : Desk := acts.foldl step { buffer := { capacity } }

theorem run_concat (capacity : ℕ) (acts : List Act) (a : Act) :
    run capacity (acts ++ [a]) = (run capacity acts).step a := List.foldl_concat _ _ _ _

theorem writers_write (d : Desk) (i : ℕ) (piece : ByteArray) :
    (d.step (.write i piece)).writers =
      Function.update d.writers i ((d.writers i).write piece) := rfl

theorem writers_drop (d : Desk) (i : ℕ) :
    (d.step (.drop i)).writers = Function.update d.writers i {} := rfl

end Desk

def Act.drops (i : ℕ) : Act → Bool
  | .write _ _ => false
  | .drop j => j = i

def Act.pieceOf? (i : ℕ) : Act → Option ByteArray
  | .write j piece => if j = i then some piece else none
  | .drop _ => none

/-- The pieces that a writer was given since its number was free, oldest first. -/
def pieces (i : ℕ) (acts : List Act) : List ByteArray :=
  (acts.rtakeWhile (!·.drops i)).filterMap (·.pieceOf? i)

/-- The events that are stored after some acts, in the order in which their writers are dropped. -/
def eventsAfter (before : List Act) : List Act → List (List ByteArray)
  | [] => []
  | .write i piece :: acts => eventsAfter (before ++ [.write i piece]) acts
  | .drop i :: acts => pieces i before :: eventsAfter (before ++ [.drop i]) acts

def events (acts : List Act) : List (List ByteArray) := eventsAfter [] acts

def bytes (pieces : List ByteArray) : ByteArray := pieces.foldl (· ++ ·) .empty

section

variable (i j : ℕ) (piece : ByteArray) (acts : List Act)

theorem pieces_write :
    pieces i (acts ++ [.write j piece]) =
      if j = i then pieces i acts ++ [piece] else pieces i acts := by
  rw [pieces, List.rtakeWhile_concat_pos _ _ _ rfl, List.filterMap_append]
  split_ifs with h <;> simp [Act.pieceOf?, h, pieces]

theorem pieces_drop :
    pieces i (acts ++ [.drop j]) = if j = i then [] else pieces i acts := by
  rw [pieces]
  split_ifs with h
  · rw [List.rtakeWhile_concat_neg _ _ _ (by simp [Act.drops, h])]
    rfl
  · rw [List.rtakeWhile_concat_pos _ _ _ (by simp [Act.drops, h]), List.filterMap_append]
    simp [Act.pieceOf?, pieces]

theorem eventsAfter_append (before acts more : List Act) :
    eventsAfter before (acts ++ more) =
      eventsAfter before acts ++ eventsAfter (before ++ acts) more := by
  induction acts generalizing before with
  | nil => simp [eventsAfter]
  | cons a acts ih =>
    cases a with
    | write i piece =>
      rw [List.cons_append, eventsAfter, eventsAfter, ih, List.append_assoc]
      rfl
    | drop i =>
      rw [List.cons_append, eventsAfter, eventsAfter, ih, List.append_assoc, List.cons_append]
      rfl

theorem events_write : events (acts ++ [.write j piece]) = events acts := by
  rw [events, eventsAfter_append]
  exact List.append_nil _

theorem events_drop : events (acts ++ [.drop j]) = events acts ++ [pieces j acts] := by
  rw [events, eventsAfter_append]
  rfl

end

theorem bytes_concat (pieces : List ByteArray) (piece : ByteArray) :
    bytes (pieces ++ [piece]) = bytes pieces ++ piece := List.foldl_concat _ _ _ _

variable (capacity : ℕ) (acts : List Act)

/-- A writer holds what it was given. -/
theorem pending_run (i : ℕ) : ((Desk.run capacity acts).writers i).pending = bytes (pieces i acts) := by
  induction acts using List.reverseRecOn with
  | nil => rfl
  | append_singleton acts a ih =>
    rw [Desk.run_concat]
    cases a with
    | write j piece =>
      rw [pieces_write, Desk.writers_write]
      by_cases hj : j = i
      · subst hj
        rw [if_pos rfl, bytes_concat, ← ih, Function.update_self]
        rfl
      · rw [if_neg hj, ← ih, Function.update_of_ne (Ne.symm hj)]
    | drop j =>
      rw [pieces_drop, Desk.writers_drop]
      by_cases hj : j = i
      · subst hj
        rw [if_pos rfl, Function.update_self]
        rfl
      · rw [if_neg hj, ← ih, Function.update_of_ne (Ne.symm hj)]

theorem room_run : (Desk.run capacity acts).buffer.room = max capacity 1 := by
  induction acts using List.reverseRecOn with
  | nil => rfl
  | append_singleton acts a ih =>
    rw [Desk.run_concat, ← ih]
    cases a with
    | write j piece => rfl
    | drop j => exact LogBuffer.room_pushAll _ _

theorem lines_run : (Desk.run capacity acts).buffer.lines =
    (((events acts).map bytes).flatMap eventLines).rtake (max capacity 1) := by
  induction acts using List.reverseRecOn with
  | nil => exact (List.rtake_nil _).symm
  | append_singleton acts a ih =>
    rw [Desk.run_concat]
    cases a with
    | write j piece =>
      rw [events_write, ← ih]
      rfl
    | drop j =>
      have hroom := room_run capacity acts
      have hle : (Desk.run capacity acts).buffer.lines.length ≤
          (Desk.run capacity acts).buffer.room := by
        rw [ih, hroom, length_rtake]
        exact Nat.min_le_left _ _
      rw [events_drop, List.map_append, List.map_singleton, List.flatMap_append,
        List.flatMap_singleton, ← rtake_append_of_rtake, ← ih, ← pending_run capacity, ← hroom]
      exact LogBuffer.lines_pushAll hle _

theorem length_lines_run : (Desk.run capacity acts).buffer.lines.length ≤ max capacity 1 := by
  rw [lines_run, length_rtake]
  exact Nat.min_le_left _ _

structure KeepsNewest (capacity : ℕ) (acts : List Act) : Prop where
  /-- the last lines of all the lines that the events added, as many as there is room for -/
  newest : ∃ stored, List.Forall₂ IsStored ((events acts).map bytes) stored ∧
    (Desk.run capacity acts).buffer.lines <:+ stored.flatten ∧
    (Desk.run capacity acts).buffer.lines.length = min (max capacity 1) stored.flatten.length
  /-- however the events were cut into pieces, and their writers took turns -/
  recut : ∀ acts', (events acts').map bytes = (events acts).map bytes →
    (Desk.run capacity acts').buffer.lines = (Desk.run capacity acts).buffer.lines
  /-- also while the lines of another event are being added -/
  bounded : ∀ more, ((Desk.run capacity acts).buffer.pushAll more).lines.length ≤ max capacity 1

/-- A log keeps the newest lines of what its writers were given, whatever they do. -/
theorem keepsNewest (capacity : ℕ) (acts : List Act) : KeepsNewest capacity acts where
  newest := by
    refine ⟨((events acts).map bytes).map eventLines, ?_, ?_, ?_⟩
    · rw [List.forall₂_map_right_iff, List.forall₂_same]
      intro event _
      exact isStored_iff.2 rfl
    · rw [lines_run, List.flatMap_def]
      exact List.drop_suffix _ _
    · rw [lines_run, List.flatMap_def, length_rtake]
  recut acts' h := by
    rw [lines_run, lines_run, h]
  bounded more := by
    have hroom := room_run capacity acts
    have hle := length_lines_run capacity acts
    rw [← hroom] at hle ⊢
    rw [LogBuffer.lines_pushAll hle, length_rtake]
    exact Nat.min_le_left _ _

/-- Two events that overlap, one of them cut inside a character, where there is room for two lines. -/
example : (Desk.run 2 [.write 0 "INFO caf".toUTF8, .write 1 "WARN one\r\n \ntwo".toUTF8,
    .write 0 ⟨#[0xC3]⟩, .drop 1, .write 0 ⟨#[0xA9, 0x0A]⟩, .drop 0]).buffer.lines =
      ["two", "INFO café"] := by
  decide +kernel

end Log
end MediaRelay
