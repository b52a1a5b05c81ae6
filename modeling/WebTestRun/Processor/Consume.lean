import WebTestRun.Processor.Step
import WebTestRun.Report.Summary

/-!
# Consuming a stream

Events are processed one after the other until one says that no other follows, or a status is none.
A rejected event is mentioned and otherwise as if it had not been there.

* `Processor.consume` — the events of a stream are processed, `Processor.drain` with its end.
* `Processor.report` — the report on a run.
-/

set_option autoImplicit false

namespace WebTestRun.Processor

/-- How a stream came to its end. -/
inductive End where
  /-- All events were processed, and more may follow. -/
  | waiting
  /-- An event said that no other follows. -/
  | shutdown
  /-- An event could not be processed, and no other was. -/
  | stopped (failure : Failure)
  deriving DecidableEq, Repr

/-- What consuming a stream does. -/
structure Consumed where
  /-- The state after it. -/
  state : State
  /-- How it came to its end. -/
  ending : End := .waiting
  /-- What there is to say. -/
  logs : List Log := []
  /-- The records that are uploaded. -/
  uploads : List Json := []
  /-- The budget that was spent first. -/
  signal : Option Exceeded := none

/-- What is said about an event that is rejected. -/
def rejectedLog (e : Event) (reason : Rejection) : Log :=
  .warning .stream s!"error processing `{e.action.name}` event: {reason.message}"

/-- What is said about an event with a status that is none. -/
def fatalLog (e : Event) (status : Status.Unknown) : Log :=
  .error .stream s!"stopping results stream after `{e.action.name}` event: {status.message}"

/-- What is said about an event because of its answer. -/
def answerLogs (e : Event) : Except Failure Response → List Log
  | .error (.rejected reason) => [rejectedLog e reason]
  | .error (.fatal status) => [fatalLog e status]
  | .error (.unnameable _) | .ok _ => []

/-- How an answer ends the stream, if it does. -/
def endOf? : Except Failure Response → Option End
  | .ok .shutdown => some .shutdown
  | .ok .proceed | .ok (.exceeded _) | .error (.rejected _) => none
  | .error failure => some (.stopped failure)

/-- The budget that an answer says is spent. -/
def signalOf? : Except Failure Response → Option Exceeded
  | .ok (.exceeded e) => some e
  | _ => none

/-- The events of a stream are processed. -/
def consume (p : Processor) (s : State) : List Event → Consumed
  | [] => { state := s }
  | e :: rest =>
    let now := p.step s e
    let logs := now.logs ++ answerLogs e now.answer
    match endOf? now.answer with
    | some ending =>
      { state := now.state, ending, logs, uploads := now.uploads, signal := signalOf? now.answer }
    | none =>
      let later := p.consume now.state rest
      { later with
        logs := logs ++ later.logs
        uploads := now.uploads ++ later.uploads
        signal := (signalOf? now.answer).orElse fun _ ↦ later.signal }

/-- The events of a stream are processed, and then the end of the stream. -/
def drain (p : Processor) (s : State) (events : List Event) : Consumed :=
  p.consume s (events ++ [.shutdown])

/-- The report on a run, and what there is to say about it. -/
def report (p : Processor) (s : State) (interrupted : Bool) (now : Int) : Report × List Log :=
  Report.ofHistory s.history {
    tally := s.tally
    interrupted
    secondsSinceEpoch := now
    layoutTestsDir := p.extraction.layout.dir
    flagName := p.flagName
    shard := p.shard }

end WebTestRun.Processor
