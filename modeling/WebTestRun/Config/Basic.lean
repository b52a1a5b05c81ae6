import WebTestRun.File.Path
import WebTestRun.Setting.Layer
import WebTestRun.TestKind
import WebTestRun.Threshold

/-!
# The configuration of a run

A configuration has three sections: how events are processed, where tests and what belongs to them
lie, and what goes into the report.

* `Config` — a configuration.
* `Config.defaults` — the settings that hold unless others are put over them.
* `Config.Unfit` — a setting that cannot be read, and where it is.
-/

set_option autoImplicit false

namespace WebTestRun

/-- How events are processed. -/
structure Config.Processing where
  /-- The directory that artifacts are written to. -/
  artifactsDir : String := "layout-test-results"
  /-- What the names of tests start with where results are uploaded. -/
  testNamePrefix : String := ""
  /-- How many unexpected failures there may be. -/
  failureThreshold : Threshold := .unbounded
  /-- How many unexpected crashes and timeouts there may be together. -/
  crashTimeoutThreshold : Threshold := .unbounded
  /-- Whether baselines are replaced by what was observed. -/
  resetResults : Bool := false
  /-- How long a run may take to end once its events have, in nanoseconds. -/
  shutdownTimeout : Nat := 3000000000
  /-- Commands whose output is kept as a crash log if they contain one of these. -/
  crashLogExecutables : List String := ["chromedriver", "logcat", "content_shell"]
  deriving DecidableEq, Repr

/-- Where tests, baselines and expectations lie. -/
structure Config.Tests where
  /-- The directory of web tests. -/
  dir : String := "third_party/blink/web_tests"
  /-- The manifest of the public tests, relative to the directory. -/
  manifest : Option String := none
  /-- The manifest of the internal tests, relative to the directory. -/
  internalManifest : Option String := none
  /-- The directories searched for baselines first, relative to the directory. -/
  baselineSearchPath : List String := []
  /-- The files of expectations, relative to the directory. -/
  expectationsFiles : List String := []
  /-- What describes the platform. -/
  platformTags : List String := []
  /-- The kind of every test when there is no manifest. -/
  defaultKind : TestKind := .testharness
  deriving DecidableEq, Repr

/-- What goes into the report. -/
structure Config.Reporting where
  /-- Which part of the tests ran. -/
  shardIndex : Option Nat := none
  /-- The name of the configuration that the tests ran under. -/
  flagName : Option String := none
  /-- The file that results are uploaded from. -/
  sinkOutput : Option String := none
  deriving DecidableEq, Repr

/-- The configuration of a run. -/
structure Config where
  /-- How events are processed. -/
  processing : Config.Processing := {}
  /-- Where tests lie. -/
  tests : Config.Tests := {}
  /-- What goes into the report. -/
  reporting : Config.Reporting := {}
  deriving DecidableEq, Repr

namespace Config

/-- A path below the directory of web tests. -/
def Tests.resolve (t : Tests) (path : String) : String := Path.join t.dir path

/-- The settings that hold unless others are put over them. -/
def defaults : List (String × Setting) :=
  [("processor", .table
      [("artifacts-dir", .text "layout-test-results"),
       ("test-name-prefix", .text ""),
       ("failure-threshold", .text "unbounded"),
       ("crash-timeout-threshold", .text "unbounded"),
       ("reset-results", .boolean false),
       ("shutdown-timeout", .text "3s"),
       ("crash-log-executables",
         .list [.text "chromedriver", .text "logcat", .text "content_shell"])]),
   ("web-tests", .table
      [("dir", .text "third_party/blink/web_tests"),
       ("baseline-search-path", .list []),
       ("expectations-files", .list []),
       ("platform-tags", .list []),
       ("default-test-type", .text "testharness")]),
   ("report", .table [])]

/-! ## Settings that cannot be read -/

/-- A setting that cannot be read. -/
structure Unfit where
  /-- The way to it. -/
  path : List Setting.Step := []
  /-- What is wrong with it, if it should be a threshold. -/
  threshold : Option Threshold.Unfit := none
  deriving DecidableEq, Repr

/-- The same setting, seen from one step above. -/
def Unfit.below (step : Setting.Step) (u : Unfit) : Unfit := { u with path := step :: u.path }

/-- A path as a text: keys with dots between them, and positions in brackets. -/
def pathText (path : List Setting.Step) : String :=
  path.foldl (fun text step ↦
    match step with
    | .key k => if text.isEmpty then k else text ++ "." ++ k
    | .position i => s!"{text}[{i}]") ""

end Config

end WebTestRun
