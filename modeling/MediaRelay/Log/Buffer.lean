import MediaRelay.Text.Blank
import MediaRelay.Text.Search
import MediaRelay.Text.Utf8
/-! The newest lines of a log. Events are written as bytes and cut into lines when they are complete, so it does not
matter how they were written. -/

namespace MediaRelay

structure LogBuffer where
  /-- at most this many lines are kept; none counts as one -/
  capacity : Nat
  /-- oldest first -/
  lines : List String := []

namespace LogBuffer

def defaultCapacity : Nat := 500

def room (b : LogBuffer) : Nat := max b.capacity 1

/-- Adds a line, and drops the oldest ones where there is no room. -/
def push (b : LogBuffer) (line : String) : LogBuffer :=
  { b with lines := b.lines.drop (b.lines.length + 1 - b.room) ++ [line] }

def pushAll (b : LogBuffer) (lines : List String) : LogBuffer := lines.foldl push b

end LogBuffer

namespace Log

/-- A line from its characters, last one first; a carriage return at its end is left out. -/
def lineOf : List Char → List Char
  | '\r' :: before => before.reverse
  | here => here.reverse

/-- The lines of a text that begins with `here`, last character first, and the lines before it. A line ends with a
line feed; a carriage return before it belongs to the end. -/
def linesFrom (done : List (List Char)) (here : List Char) : List Char → List (List Char)
  | [] => (if here.isEmpty then done else here.reverse :: done).reverse
  | c :: rest =>
    if c = '\n' then linesFrom (lineOf here :: done) [] rest else linesFrom done (c :: here) rest

def linesOf (text : List Char) : List (List Char) := linesFrom [] [] text

/-- The lines of an event that are not blank. -/
def eventLines (event : ByteArray) : List String :=
  ((linesOf (textOfBytes event).toList).filter fun l => l.any (!Text.isBlank ·)).map String.ofList

end Log

structure LogWriter where
  pending : ByteArray := .empty

namespace LogWriter

def write (w : LogWriter) (piece : ByteArray) : LogWriter := { pending := w.pending ++ piece }

def drop (w : LogWriter) (b : LogBuffer) : LogBuffer := b.pushAll (Log.eventLines w.pending)

end LogWriter

def LogBuffer.store (b : LogBuffer) (pieces : List ByteArray) : LogBuffer :=
  (pieces.foldl LogWriter.write {}).drop b

end MediaRelay
