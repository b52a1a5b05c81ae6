import WebTestRun.Event.Stream
import WebTestRun.Processor.Consume
import WebTestRun.Run.Ending
import WebTestRun.Run.Setup

/-!
# Processing the events of a run

The events come from a file or over the standard input. They are consumed in their order until
there is none left, something asks the run to stop, or the input cannot be read any further; then
the results are reported.

* `Run.process` — events are processed and reported.
* `Run.openInput`, `Run.consumed`, `Run.reported` — its three parts.
-/

set_option autoImplicit false

namespace WebTestRun.Run

open Invocation (ProcessOptions)

/-! ## Events -/

/-- Whether a path stands for the standard input. -/
def isStandardInput (path : String) : Bool :=
  !Path.isAbsolute path && ((Path.marked path).filter (·.2)).map (·.1) == ["-"]

/-- What the events are read from: bytes, or a fault that shows only when it is read. -/
def openInput (w : Surroundings) (path : String) : Action (Except FileTree.Fault ByteArray) := do
  if isStandardInput path then return .ok w.standardInput
  else match (← files).read path with
    | .ok bytes => return .ok bytes
    | .error .isDirectory => return .error .isDirectory
    | .error fault => throw (.inputNotOpened path fault)

/-- The events of an input, with what there is to say about lines that hold none. -/
def eventsOf (input : Except FileTree.Fault ByteArray) : List Event × List Log :=
  match input with
  | .ok bytes =>
    let entries := Event.readStream bytes
    (entries.filterMap (·.event?), entries.flatMap (·.logs))
  | .error _ => ([], [])

/-- What is said when something asks a run to stop. -/
def interruptLog (i : Interrupt) : Log := .warning .command s!"received {i.name}, stopping"

/-- What asks a run to stop, unless it has stopped already because a budget is spent. -/
def noticed? (w : Surroundings) (c : Processor.Consumed) : Option Interrupt :=
  if c.signal.isSome then none else w.interrupt

/-- The end of a stream that may go on. -/
def shutDown (p : Processor) (c : Processor.Consumed) : Processor.Consumed :=
  match c.ending with
  | .waiting => p.consume c.state [.shutdown]
  | ending => { state := c.state, ending }

/-- The failure of a stream that was stopped, if it was by one. -/
def failureOf? : Processor.End → Option Failure
  | .waiting | .shutdown => none
  | .stopped (.fatal status) => some (.unknownStatus status)
  | .stopped (.unnameable _) => some .brokenOff
  | .stopped (.rejected _) => none

/-- The events of an input are consumed, and then the end of the stream. -/
def consumed (w : Surroundings) (p : Processor) (c : Config)
    (input : Except FileTree.Fault ByteArray) (sink : Option Sink) :
    Action (Processor.State × Ending × Option Sink) := do
  let (events, logs) := eventsOf input
  say .main logs
  let first := p.consume (Processor.start (← files) c) events
  say .consumer first.logs
  let interrupt := noticed? w first
  say .main (interrupt.map interruptLog).toList
  let last := shutDown p first
  say .consumer last.logs
  setFiles last.state.files
  let sink ← Sink.append? (first.uploads ++ last.uploads) sink
  match failureOf? last.ending with
  | some failure => throw failure
  | none =>
    let ending : Ending := if input.isOk && interrupt.isNone then .completed else .interrupted
    return (last.state, ending.withBudget last.state.budgets.exceeded, sink)

/-! ## Reports -/

/-- What is said when the results are written. -/
def writtenLog (s : Processor.State) (report : Report) (dir : String) : Log :=
  .info .command
    s!"processed {s.history.size} tests ({report.regressions} regressions), results written to {dir}"

/-- The results are written to the directory of artifacts. -/
def reported (w : Surroundings) (o : ProcessOptions) (p : Processor) (s : Processor.State)
    (ending : Ending) (sink : Option Sink) : Action Report := do
  let dir := p.extraction.store.dir
  let (report, logs) := p.report s ending.isInterrupted w.now
  say .main logs
  let (tree, written) := report.write (← files) dir o.jsonTestResults
  setFiles tree
  orFail .reportNotWritten written
  say .main [writtenLog s report dir]
  match o.runnerReport with
  | some path => do
    let _ ← publish path dir sink
  | none => pure ()
  return report

/-- Events are processed and reported. -/
def process (w : Surroundings) (o : ProcessOptions) : Action ExitCode := do
  let config := o.override (← configured o.setup)
  let sink ← Sink.create? config.reporting.sinkOutput
  let p ← orFail .setup (Processor.build (← files) config)
  let input ← openInput w o.events
  let (state, ending, sink) ← consumed w p config input sink
  let report ← reported w o p state ending sink
  match input with
  | .error fault => throw (.inputNotRead fault)
  | .ok _ => do
    say .main ending.logs
    return ending.exitCode report.regressions

end WebTestRun.Run
