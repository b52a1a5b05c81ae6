import WebTestRun.Baseline.Outcome
import WebTestRun.Text.Quoted

/-!
# Baselines

A baseline is a text that declares the outcomes of a test. Its first line tells the kind of
harness, its last line is the same for all, and between them stand items: a line with statuses,
and below it the lines of a message, indented. A test all of whose subtests pass has no baseline,
or one that consists of a single marker line.

* `Baseline` — header and outcomes.
* `Baseline.Header` — the first line.
* `Baseline.Fault`, `Baseline.Error` — what can be wrong with a text, and on which line.
-/

set_option autoImplicit false

namespace WebTestRun.Baseline

/-- The harness that a baseline is for. -/
inductive Header where
  | testharness | wdspec
  deriving DecidableEq, Repr

/-- The first line of a baseline. -/
def Header.line : Header → String
  | .testharness => "This is a testharness.js-based test."
  | .wdspec => "This is a wdspec test."

/-- The header of the baselines of a kind of test. -/
def Header.ofKind : TestKind → Header
  | .wdspec => .wdspec
  | _ => .testharness

/-- The last line of a baseline. -/
def footer : String := "Harness: the test ran to completion."

/-- The only line of a baseline all of whose statuses pass. -/
def allPassMarker : String := "All subtests passed and are omitted for brevity."

/-- What starts the line of a harness error, up to its statuses. -/
def harnessPrefix : String := "Harness Error. ["

/-- What starts the line of a message. -/
def indent : String := "  "

/-- What can be wrong with a line of a baseline. -/
inductive Fault where
  | missingHeader
  | missingFooter
  /-- A line that is no item and no message. -/
  | unexpectedLine (line : String)
  /-- A message before any item. -/
  | orphanMessage
  | unknownStatus (text : String)
  | emptyStatuses
  | duplicateSubtest (name : String)
  | secondHarnessError
  deriving DecidableEq, Repr

/-- What is said about a fault. -/
def Fault.message : Fault → String
  | .missingHeader => "missing or unrecognized header"
  | .missingFooter => "missing footer"
  | .unexpectedLine line => "unrecognized line " ++ Text.quoted line
  | .orphanMessage => "message line without a preceding subtest or harness error"
  | .unknownStatus text => s!"unknown baseline status `{text}`"
  | .emptyStatuses => "empty status list"
  | .duplicateSubtest name => s!"duplicate subtest `{name}`"
  | .secondHarnessError => "more than one harness error line"

/-- A fault on a line. -/
structure Error where
  /-- The number of the line in the text, counted from one. -/
  line : Nat
  /-- What is wrong with it. -/
  fault : Fault
  deriving DecidableEq, Repr

/-- What is said about an error, its fault apart. -/
def Error.message (e : Error) : String := s!"invalid baseline at line {e.line}"

end Baseline

/-- What a baseline declares. -/
structure Baseline where
  /-- The harness, unless the baseline is the marker line alone or there is none. -/
  header : Option Baseline.Header := none
  /-- The outcomes. -/
  outcomes : Outcomes := {}
  deriving DecidableEq

end WebTestRun
