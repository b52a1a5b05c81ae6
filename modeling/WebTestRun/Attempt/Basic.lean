import WebTestRun.Artifact.Map
import WebTestRun.Baseline.Written
import WebTestRun.Image.Stats
import WebTestRun.TestName
import WebTestRun.Text.Percent

/-!
# Attempts

An attempt is one run of one test. It is known by the name of the test, its kind and its source
file, declares which verdicts are expected of it, and ends with a verdict, the outcomes that were
observed and the artifacts that were recorded.

* `Attempt` — an attempt that has ended.
* `Attempt.unexpected`, `Attempt.isRegression` — how its verdict relates to the expected ones.
* `Attempt.summary?` — what a viewer of results is told about a regression.
-/

set_option autoImplicit false

namespace WebTestRun

/-- What is known of an attempt when it starts. -/
structure Attempt.Start where
  /-- The name of the test. -/
  name : String
  /-- The kind of the test. -/
  kind : TestKind
  /-- The file that holds the test. -/
  filePath : String
  /-- When it started, in milliseconds. -/
  started : Int
  /-- The verdicts that are expected of it. -/
  expected : Choice Verdict
  /-- The text of its baseline. -/
  baselineText : Option String

/-- An attempt that has ended. -/
structure Attempt extends Attempt.Start where
  /-- The verdict. -/
  verdict : Verdict
  /-- How long it took, in milliseconds. -/
  took : Nat
  /-- What its subtests and its harness reported. -/
  outcomes : Outcomes
  /-- Its diagnostic messages that no log holds yet. -/
  messages : List String
  /-- Whether it had diagnostic messages. -/
  hasStderr : Bool
  /-- Its recorded artifacts. -/
  artifacts : Artifact.Map := {}
  /-- How far its screenshots differ, if they do. -/
  imageStats : Option ImageStats := none

namespace Attempt

/-- The verdict is none of those expected. -/
def unexpected (a : Attempt) : Bool := !a.expected.has a.verdict

/-- The verdict is unexpected and not for the better. -/
def isRegression (a : Attempt) : Bool := a.unexpected && a.verdict != .pass

/-- The baseline that declares what was observed. -/
def baseline (a : Attempt) : String := a.outcomes.baselineText (.ofKind a.kind)

/-! ## What a viewer of results is told -/

/-- How to run and triage such tests. -/
def instructionsUrl : String :=
  "https://chromium.googlesource.com/chromium/src/+/HEAD/docs/testing/run_web_platform_tests.md"

/-- Where the latest results of a public test are shown. -/
def dashboardUrl? (name : String) : Option String :=
  (Text.dropPrefix? TestName.publicPrefix name).map fun test ↦
    "https://wpt.fyi/results/" ++ Text.formEncode test ++
      "?label=experimental&label=master&aligned"

/-- A heading and the text of an artifact below it. -/
def artifactSection (id : String) : String :=
  s!"<h3>{id}</h3><p><text-artifact artifact-id=\"{id}\"/></p>"

/-- The summary of a regression: instructions, the dashboard, and the logs that were recorded. -/
def summary? (a : Attempt) : Option String :=
  if a.isRegression then
    let opening :=
      "<p><strong>This WPT was run against <code>chrome</code> using " ++
      s!"<code>chromedriver</code>. See <a href=\"{instructionsUrl}\">these " ++
      "instructions</a> about running these tests locally and triaging failures.</strong></p>"
    let dashboard := match dashboardUrl? a.name with
      | some url => s!"<p><a href=\"{url}\">Latest wpt.fyi results</a></p>"
      | none => ""
    let logs := (["stderr", "crash_log"].filter a.artifacts.contains).map artifactSection
    some (opening ++ dashboard ++ String.join logs)
  else none

end Attempt

end WebTestRun
