/-!
# Exit codes

* `ExitCode` — how a run ends, and the number of each end.
-/

set_option autoImplicit false

namespace WebTestRun

/-- How a run ends. -/
inductive ExitCode where
  /-- The events were processed and no test regressed. -/
  | ok
  /-- The events were processed and at least one test regressed. -/
  | regressions
  /-- The configuration, a manifest or the expectations could not be read. -/
  | setupError
  /-- The runner reported a status that is none. -/
  | invalidRunnerStatus
  /-- The events were not processed in time. -/
  | streamShutdownTimeout
  /-- The events could not be read. -/
  | inputReadError
  /-- Results could not be written. -/
  | writeOutputError
  /-- The report of the runner could not be merged. -/
  | reportMergeFailed
  /-- A signal ended the run. -/
  | interrupted
  /-- There were too many unexpected results. -/
  | thresholdExceeded
  deriving DecidableEq, Repr

namespace ExitCode

/-- The number of an end. -/
def number : ExitCode → UInt8
  | ok => 0
  | regressions => 100
  | setupError => 96
  | invalidRunnerStatus => 97
  | streamShutdownTimeout => 98
  | inputReadError => 99
  | writeOutputError => 110
  | reportMergeFailed => 111
  | interrupted => 130
  | thresholdExceeded => 140

end ExitCode

end WebTestRun
