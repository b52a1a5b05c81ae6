import WebTestRun.Event.Read
import WebTestRun.Log
import WebTestRun.Text.Blank
import WebTestRun.Text.Utf8

/-!
# Streams of events

Events come as lines of bytes, in portions of any size. A line that is no text or no event is
skipped, and mentioned with its number; blank lines count and are otherwise ignored.

* `EventReader` — a reader of a stream, which keeps the line that is not complete yet.
* `EventReader.feed`, `EventReader.close` — a portion is read, the stream ends.
* `Event.readStream` — the events of all bytes.
-/

set_option autoImplicit false

namespace WebTestRun

/-- What a line of a stream holds. -/
inductive Event.Entry where
  | event (e : Event)
  /-- A line that is skipped. -/
  | skipped (line : Nat) (reason : String)

/-- What is said about a line that is skipped. -/
def Event.Entry.logs : Event.Entry → List Log
  | .event _ => []
  | .skipped line reason =>
    [.warning .input s!"skipping line {line} of event stream: {reason}"]

/-- The event of a line. -/
def Event.Entry.event? : Event.Entry → Option Event
  | .event e => some e
  | .skipped .. => none

/-- A line without newlines and carriage returns at its end. -/
def Event.lineContent (line : List Char) : List Char :=
  (line.reverse.dropWhile fun c ↦ c == '\n' || c == '\r').reverse

/-- What a line holds, given its number and all its bytes. -/
def Event.readLine (number : Nat) (bytes : List UInt8) : List Event.Entry :=
  match Utf8.text bytes with
  | .error fault => [.skipped number fault.message]
  | .ok line =>
    let content := lineContent line.toList
    if Text.allBlank content then []
    else match Event.read (String.ofList content) with
      | .ok e => [.event e]
      | .error fault => [.skipped number fault.message]

/-- A reader of a stream. -/
structure EventReader where
  /-- The bytes of the line that is not complete, the last one first. -/
  pending : List UInt8 := []
  /-- How many lines were complete. -/
  lines : Nat := 0

namespace EventReader

/-- The line that is not complete ends. -/
def complete (r : EventReader) : EventReader × List Event.Entry :=
  ({ lines := r.lines + 1 }, Event.readLine (r.lines + 1) r.pending.reverse)

/-- A byte is read. -/
def feedByte (r : EventReader) (b : UInt8) : EventReader × List Event.Entry :=
  let r := { r with pending := b :: r.pending }
  if b = 10 then r.complete else (r, [])

/-- A byte is read, and what its line holds is put to what came before. -/
def feedNext (s : EventReader × Array Event.Entry) (b : UInt8) : EventReader × Array Event.Entry :=
  let (r, now) := s.1.feedByte b
  (r, s.2 ++ now)

/-- A portion is read. -/
def feed (r : EventReader) (bytes : List UInt8) : EventReader × List Event.Entry :=
  let (r, entries) := bytes.foldl feedNext (r, #[])
  (r, entries.toList)

/-- The stream ends. What follows the last newline is a line if it is not empty. -/
def close (r : EventReader) : List Event.Entry :=
  if r.pending.isEmpty then [] else r.complete.2

end EventReader

/-- What the lines of a stream hold. -/
def Event.readStream (bytes : ByteArray) : List Event.Entry :=
  let (r, entries) := EventReader.feed {} bytes.data.toList
  entries ++ r.close

end WebTestRun
