import WebTestRun.Processor.Consume
import WebTestRun.Run.Ending

/-!
# Orders of reading and consuming

Events are read by one activity and consumed by another, with a queue between them. The consumer
announces that a budget is spent, and the reader may notice that at any later time, or never if it
comes to the end of the events first. Each may go on whenever it can, so there are many orders in
which a run can go.

* `Schedule` — how far both are.
* `Schedule.Next` — what may happen next.
* `Schedule.Reaches` — what may happen in several steps.
* `Schedule.verdict?` — why the run ends, once both have stopped.
-/

set_option autoImplicit false

namespace WebTestRun.Run

/-- How far reading and consuming are. -/
structure Schedule where
  /-- The events that are still to be read. -/
  unread : List Event
  /-- The events that were read and not consumed, the oldest first. -/
  queue : List Event := []
  /-- What the consumer has made of the events so far. -/
  state : Processor.State
  /-- Whether the consumer has stopped, and why. -/
  stopped : Processor.End := .waiting
  /-- The budgets that the consumer has announced as spent. -/
  announced : List Exceeded := []
  /-- The reader still waits for an announcement. -/
  listening : Bool := true
  /-- Why the reader has stopped, if it has. -/
  ending : Option Ending := none

namespace Schedule

/-- Nothing was read yet. -/
def start (s : Processor.State) (events : List Event) : Schedule := { unread := events, state := s }

/-- The next event is put to the queue. -/
def enqueue (s : Schedule) (e : Event) (rest : List Event) : Schedule :=
  { s with unread := rest, queue := s.queue ++ [e] }

/-- The reader stops and asks the consumer to stop, too. -/
def close (s : Schedule) (ending : Ending) : Schedule :=
  { s with queue := s.queue ++ [.shutdown], ending := some ending }

/-- The oldest event of the queue is consumed. -/
def consume (p : Processor) (s : Schedule) (e : Event) (rest : List Event) : Schedule :=
  let now := p.step s.state e
  { s with
    queue := rest
    state := now.state
    stopped := (Processor.endOf? now.answer).getD .waiting
    announced := s.announced ++ (Processor.signalOf? now.answer).toList }

/-- What may happen next. -/
inductive Next (p : Processor) : Schedule → Schedule → Prop where
  /-- An event is read and put to the queue. -/
  | read {s : Schedule} {e : Event} {rest : List Event} :
      s.ending = none → s.unread = e :: rest → Next p s (s.enqueue e rest)
  /-- An event is read after the consumer has stopped, and there is no point in going on. -/
  | refused {s : Schedule} {e : Event} {rest : List Event} :
      s.ending = none → s.unread = e :: rest → s.stopped ≠ .waiting →
      Next p s ({ s with unread := rest }.close .completed)
  /-- There are no more events to read. -/
  | exhausted {s : Schedule} :
      s.ending = none → s.unread = [] → Next p s (s.close .completed)
  /-- The first announcement is noticed. -/
  | noticed {s : Schedule} {which : Exceeded} {rest : List Exceeded} :
      s.ending = none → s.listening = true → s.announced = which :: rest →
      Next p s (s.close (.exceeded which))
  /-- The consumer has stopped and nothing was announced, so nothing will be. -/
  | unannounced {s : Schedule} :
      s.ending = none → s.listening = true → s.announced = [] → s.stopped ≠ .waiting →
      Next p s { s with listening := false }
  /-- An event of the queue is consumed. -/
  | consumed {s : Schedule} {e : Event} {rest : List Event} :
      s.stopped = .waiting → s.queue = e :: rest → Next p s (s.consume p e rest)

/-- What may happen in several steps. -/
inductive Reaches (p : Processor) (s : Schedule) : Schedule → Prop where
  | refl : Reaches p s s
  | step {t u : Schedule} : Reaches p s t → Next p t u → Reaches p s u

/-- Why the run ends, once the reader has stopped and the consumer as well. A budget that was spent
counts also if it was not noticed. -/
def verdict? (s : Schedule) : Option Ending :=
  if s.stopped = .waiting then none
  else s.ending.map fun e ↦ e.withBudget s.state.budgets.exceeded

theorem Reaches.trans {p : Processor} {s t u : Schedule} (h : Reaches p s t)
    (h' : Reaches p t u) : Reaches p s u := by
  induction h' with
  | refl => exact h
  | step _ hn ih => exact ih.step hn

/-- A reader that has stopped does not start again. -/
theorem Next.ending_eq {p : Processor} {s t : Schedule} {e : Ending} (h : Next p s t)
    (he : s.ending = some e) : t.ending = some e := by
  cases h with
  | consumed _ _ => exact he
  | _ => simp_all

/-- A consumer that has stopped does not start again. -/
theorem Next.stopped_eq {p : Processor} {s t : Schedule} (h : Next p s t)
    (hs : s.stopped ≠ .waiting) : t.stopped = s.stopped := by
  cases h with
  | consumed hw _ => exact absurd hw hs
  | _ => rfl

end Schedule

end WebTestRun.Run
