import WebTestRun.Config.Read
import WebTestRun.ExitCode
import WebTestRun.Processor.Step
import WebTestRun.Report.Files
import WebTestRun.RunnerReport

/-!
# Failed runs

What can go wrong with a run as a whole. Each failure has a message of its own, a heading for the
console with the reasons behind it, and an exit code.

* `Run.Failure` — the failures.
* `Failure.heading`, `Failure.reasons`, `Failure.logs` — what the console tells about one.
* `Failure.number` — what the program exits with.
-/

set_option autoImplicit false

namespace WebTestRun.Run

/-- What can go wrong with a run. -/
inductive Failure where
  | config (e : Config.Error)
  | setup (fault : Processor.BuildFault)
  | sinkNotCreated (path : String) (fault : FileTree.Fault)
  | inputNotOpened (path : String) (fault : FileTree.Fault)
  | inputNotRead (fault : FileTree.Fault)
  | unknownStatus (status : Status.Unknown)
  | reportNotWritten (fault : Report.WriteFault)
  | runnerReportNotMerged (fault : RunnerReport.Fault)
  /-- An event had to be given up on in the middle. -/
  | brokenOff
  deriving DecidableEq, Repr

namespace Failure

/-- What kind of failure it is. -/
def message : Failure → String
  | .config _ => "config parse error"
  | .setup _ => "processor build error"
  | .sinkNotCreated .. => "failed to create sink output"
  | .inputNotOpened .. => "failed to open event stream"
  | .inputNotRead _ => "failed to read event stream"
  | .unknownStatus _ => "invalid runner status"
  | .reportNotWritten _ => "failed to write report"
  | .runnerReportNotMerged _ => "failed to merge wptreport"
  | .brokenOff => "results stream failed"

/-- What the console says first. A path is shown by the given function. -/
def heading (shown : String → String) : Failure → String
  | .config e => s!"failed to parse config at `{shown e.file}`"
  | .setup _ => "failed to set up results processor"
  | .sinkNotCreated path _ => s!"failed to create sink output at `{shown path}`"
  | .inputNotOpened path _ => s!"failed to open event stream `{shown path}`"
  | .inputNotRead _ => "failed to read event stream"
  | .unknownStatus status =>
    s!"{status.message}: the runner and wpt-results disagree about the status vocabulary"
  | .reportNotWritten _ => "failed to write results"
  | .runnerReportNotMerged _ => "failed to merge wptreport"
  | .brokenOff => "failed to process event stream"

/-- What lies behind a file of a configuration that does not fit. -/
def configReasons : Config.Fault → List String
  | .unreadable => ["the file cannot be read or is not TOML"]
  | .unfit u =>
    let detail := (u.threshold.map fun t ↦ t.message).getD "the value does not fit"
    [s!"{Config.pathText u.path}: {detail}", detail]

/-- What lies behind a report of the runner that was not merged. -/
def mergeReasons (fault : RunnerReport.Fault) : List String :=
  fault.message :: match fault with
    | .unreadable _ fault => [fault.message]
    | .unwritten fault => [fault.fault.message]
    | .empty _ | .notObject .. => []

/-- What lies behind a failure, one thing behind the other. -/
def reasons : Failure → List String
  | .config e => configReasons e.fault
  | .setup fault => fault.message :: fault.reasons
  | .sinkNotCreated _ fault | .inputNotOpened _ fault | .inputNotRead fault => [fault.message]
  | .unknownStatus _ | .brokenOff => []
  | .reportNotWritten fault => [fault.message, fault.fault.message]
  | .runnerReportNotMerged fault => mergeReasons fault

/-- A reason as a log line. -/
def reasonLog (reason : String) : Log := .error .reason s!"\nCaused by:\n  {reason}"

/-- What the console tells about a failure. -/
def logs (shown : String → String) (f : Failure) : List Log :=
  .error .failure (f.heading shown) :: f.reasons.map reasonLog

/-- How the run ends; nothing if it breaks off. -/
def exitCode? : Failure → Option ExitCode
  | .config _ | .setup _ | .sinkNotCreated .. => some .setupError
  | .inputNotOpened .. | .inputNotRead _ => some .inputReadError
  | .unknownStatus _ => some .invalidRunnerStatus
  | .reportNotWritten _ => some .writeOutputError
  | .runnerReportNotMerged _ => some .reportMergeFailed
  | .brokenOff => none

/-- What the program exits with. -/
def number (f : Failure) : UInt8 := f.exitCode?.elim 101 ExitCode.number

end Failure

end WebTestRun.Run
