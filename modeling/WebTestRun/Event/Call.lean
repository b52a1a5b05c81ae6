import WebTestRun.Event.Stream

/-!
# Calls for the next event

The bytes of a stream arrive in portions, and the events are asked for one by one. Each call reads
on until a line holds an event or the stream ends; it waits when nothing has arrived. Whoever calls
may give a call up at any time, and call again later: what the call has read stays with the reader.

* `Event.Reading` — how far the reading of a stream is.
* `Event.Reading.Next` — what may happen next.
* `Event.Reading.Reaches` — what may happen in several steps.
-/

set_option autoImplicit false

namespace WebTestRun.Event

/-- How far the reading of a stream is. -/
structure Reading where
  /-- The bytes that are still to arrive. -/
  coming : List UInt8
  /-- The bytes that have arrived and were not read. -/
  arrived : List UInt8 := []
  /-- The reader. -/
  reader : EventReader := {}
  /-- A call for the next event was made, and neither answered nor given up. -/
  calling : Bool := false
  /-- The events that calls were answered with. -/
  answers : List Event := []
  /-- What was said about lines that were skipped. -/
  logs : List Log := []
  /-- A call was answered with the end of the stream. -/
  ended : Bool := false

namespace Reading

/-- Nothing has arrived yet. -/
def start (bytes : List UInt8) : Reading := { coming := bytes }

/-- The reader has gone on. An event answers the call, and without one the call reads on. -/
def proceed (t : Reading) (now : EventReader × List Entry) : Reading :=
  { t with
    reader := now.1
    calling := (now.2.filterMap Entry.event?).isEmpty
    answers := t.answers ++ now.2.filterMap Entry.event?
    logs := t.logs ++ now.2.flatMap Entry.logs }

/-- What may happen next. -/
inductive Next : Reading → Reading → Prop where
  /-- A portion of the bytes arrives. -/
  | arrive {t : Reading} {portion rest : List UInt8} :
      t.coming = portion ++ rest →
      Next t { t with coming := rest, arrived := t.arrived ++ portion }
  /-- The next event is asked for. -/
  | call {t : Reading} :
      t.calling = false → t.ended = false → Next t { t with calling := true }
  /-- A call is given up. -/
  | cancel {t : Reading} : t.calling = true → Next t { t with calling := false }
  /-- A byte that has arrived is read. -/
  | read {t : Reading} {b : UInt8} {rest : List UInt8} :
      t.calling = true → t.arrived = b :: rest →
      Next t ({ t with arrived := rest }.proceed (t.reader.feedByte b))
  /-- The stream ends after a line without a newline. -/
  | complete {t : Reading} :
      t.calling = true → t.coming = [] → t.arrived = [] → t.reader.pending ≠ [] →
      Next t (t.proceed t.reader.complete)
  /-- The stream ends after a newline, or was empty. -/
  | finish {t : Reading} :
      t.calling = true → t.coming = [] → t.arrived = [] → t.reader.pending = [] →
      Next t { t with calling := false, ended := true }

/-- What may happen in several steps. -/
inductive Reaches (t : Reading) : Reading → Prop where
  | refl : Reaches t t
  | step {u v : Reading} : Reaches t u → Next u v → Reaches t v

theorem Reaches.trans {t u v : Reading} (h : Reaches t u) (h' : Reaches u v) : Reaches t v := by
  induction h' with
  | refl => exact h
  | step _ hn ih => exact ih.step hn

end Reading

end WebTestRun.Event
