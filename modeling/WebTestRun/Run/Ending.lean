import WebTestRun.ExitCode
import WebTestRun.Log
import WebTestRun.Threshold

/-!
# How the events of a run end

* `Run.Ending` — why no more events are read.
* `Ending.exitCode` — how the run ends then.
-/

set_option autoImplicit false

namespace WebTestRun.Run

/-- Why no more events are read. -/
inductive Ending where
  /-- There are none. -/
  | completed
  /-- Something came between. -/
  | interrupted
  /-- A budget is spent. -/
  | exceeded (e : Exceeded)
  deriving DecidableEq, Repr

namespace Ending

/-- A budget that is spent counts more than any other reason, also when that is only seen after
the last event was read. -/
def withBudget (e : Ending) : Option Exceeded → Ending
  | some spent => .exceeded spent
  | none => e

/-- Whether the results are those of a part of the run. -/
def isInterrupted (e : Ending) : Bool := e ≠ .completed

/-- How the run ends, given how many tests regressed. -/
def exitCode (e : Ending) (regressions : Nat) : ExitCode :=
  match e with
  | .exceeded _ => .thresholdExceeded
  | .interrupted => .interrupted
  | .completed => if regressions = 0 then .ok else .regressions

/-- What there is to say about it. -/
def logs : Ending → List Log
  | .exceeded e =>
    [.warning .command
      s!"run aborted after too many unexpected {e.name}, results are incomplete"]
  | .interrupted | .completed => []

theorem isInterrupted_withBudget_some (e : Ending) (spent : Exceeded) :
    (e.withBudget (some spent)).isInterrupted = true := by
  simp [withBudget, isInterrupted]

theorem exitCode_withBudget_some (e : Ending) (spent : Exceeded) (n : Nat) :
    (e.withBudget (some spent)).exitCode n = .thresholdExceeded := rfl

end Ending

end WebTestRun.Run
