import WebTestRun.Json.Basic
import WebTestRun.TestName

/-!
# Events

The runner reports what happens as a stream of events. Each has a time and names where it comes
from; what it says is its action. Events about a test name the test as the runner knows it: by an
identifier and, if the test runs under a suite, by that suite.

* `Event` — an event, `Event.Action` — what it says.
* `TestId` — a test as the runner names it.
* `StatusReport` — a status, and which other statuses the runner would have taken.
-/

set_option autoImplicit false

namespace WebTestRun

/-- A test as the runner names it. -/
structure TestId where
  /-- The identifier, relative to the tests that the runner knows. -/
  test : String
  /-- The suite that the test runs under. -/
  suite : Option String := none
  deriving DecidableEq, Repr

/-- The name of the test in results. -/
def TestId.name (t : TestId) : String := TestName.full t.test t.suite

/-- A status that the runner reports for a test or a subtest. -/
structure StatusReport where
  /-- The status, as the runner spells it. -/
  status : String
  /-- The status that the runner expected, if it was another one. -/
  expected : Option String := none
  /-- Other statuses that the runner would have taken. -/
  intermittent : List String := []
  /-- A diagnostic message. -/
  message : Option String := none
  deriving DecidableEq, Repr

/-- Every status that the runner would have taken. -/
def StatusReport.accepted (r : StatusReport) : List String :=
  r.expected.getD r.status :: r.intermittent

/-- What the runner tells about the screenshots of a test. -/
inductive Screenshot where
  /-- The screenshot of a page, as base64 of a PNG image. -/
  | image (url data : String)
  /-- How two screenshots relate, like `==`. -/
  | relation (text : String)
  deriving DecidableEq, Repr

namespace Event

/-- What an event says. -/
inductive Action where
  /-- A suite started, with facts about the run. -/
  | suiteStart (runInfo : List (String × Json))
  | testStart (test : TestId)
  /-- A subtest reported a status. -/
  | testStatus (test : TestId) (subtest : String) (report : StatusReport)
  | testEnd (test : TestId) (report : StatusReport) (screenshots : List Screenshot)
  /-- A suite ended. Tests that start later are retries. -/
  | suiteEnd
  /-- No event follows. -/
  | shutdown
  /-- A process wrote a line of output: a text, or any other value. -/
  | processOutput (command : String) (data : Json)
  | log
  | addSubsuite
  /-- Something else. -/
  | unknown (name : String)

/-- The name of an action. -/
def Action.name : Action → String
  | .suiteStart _ => "suite_start"
  | .testStart _ => "test_start"
  | .testStatus .. => "test_status"
  | .testEnd .. => "test_end"
  | .suiteEnd => "suite_end"
  | .shutdown => "shutdown"
  | .processOutput .. => "process_output"
  | .log => "log"
  | .addSubsuite => "add_subsuite"
  | .unknown name => name

/-- The test that an action is about. -/
def Action.test? : Action → Option TestId
  | .testStart test | .testStatus test .. | .testEnd test .. => some test
  | _ => none

end Event

/-- An event of the stream. -/
structure Event where
  /-- When it happened, in milliseconds. -/
  time : Int := 0
  /-- The thread of the runner that it comes from. -/
  thread : Option String := none
  /-- The number of the process that it comes from. -/
  pid : Option Nat := none
  /-- The log that it comes from. -/
  source : Option String := none
  /-- What it says. -/
  action : Event.Action

/-- The event that ends a stream which lacks one. -/
def Event.shutdown : Event := { action := .shutdown }

end WebTestRun
