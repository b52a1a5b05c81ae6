import WebTestRun.Artifact.Extraction
import WebTestRun.Attempt.Running
import WebTestRun.Config.Basic
import WebTestRun.Expectation.Table
import WebTestRun.History
import WebTestRun.Processor.Lookup
import WebTestRun.Tally
import WebTestRun.Threshold

/-!
# Processors

A processor turns the events of a run into results. What it is told at the start does not change;
what happens in the run is its state.

* `Processor` — what does not change.
* `Processor.State` — what happens.
* `Processor.build` — the processor of a configuration.
-/

set_option autoImplicit false

namespace WebTestRun

/-- What a processor is told at the start. -/
structure Processor where
  /-- Where artifacts and baselines go. -/
  extraction : Extraction
  /-- Where tests are looked up. -/
  lookup : Lookup
  /-- What is expected of tests. -/
  expectations : Expectations
  /-- What the names of tests start with where results are uploaded. -/
  namePrefix : String
  /-- Commands whose output is kept as a crash log if they contain one of these. -/
  crashLogExecutables : List String
  /-- Which part of the tests runs. -/
  shard : Option Nat
  /-- The name of the configuration that the tests run under. -/
  flagName : Option String

namespace Processor

/-- What has happened in a run so far. -/
structure State where
  /-- The files. -/
  files : FileTree
  /-- How many suites have ended. Attempts after the first such end are retries. -/
  iteration : Nat := 0
  /-- Facts about the run. -/
  runInfo : List (String × Json) := []
  /-- The attempts that have not ended, under the names of their tests, in increasing order. -/
  running : List (String × Attempt.Running) := []
  /-- The output of browsers that crashed which no attempt holds yet. -/
  crashLog : List String := []
  /-- The verdicts of attempts before the first retry. -/
  tally : Tally := {}
  /-- How many unexpected results there may be, and were. -/
  budgets : Budgets := {}
  /-- The attempts that have ended. -/
  history : History := {}

namespace State

/-- The run is one of a runner that reports its tests itself. -/
def reportsItself (s : State) : Bool :=
  match Keyed.find? "used_upstream" s.runInfo with
  | some (.bool b) => b
  | _ => false

/-- How many attempts before the first retry failed, crashed or timed out. -/
def initialFailures (s : State) : Nat := s.tally.failure + s.tally.crash + s.tally.timeout

end State

/-! ## Building a processor -/

/-- Why a manifest could not be loaded. -/
inductive ManifestFault where
  | unreadable (fault : FileTree.Fault)
  | unfit (fault : Manifest.Fault)
  deriving DecidableEq, Repr

/-- Why expectations could not be loaded. -/
inductive ExpectationsFault where
  | unreadable (fault : FileTree.Fault)
  | unfit (error : Expectations.Error)
  deriving DecidableEq, Repr

/-- Why there is no processor. -/
inductive BuildFault where
  | manifest (path : String) (fault : ManifestFault)
  | expectations (path : String) (fault : ExpectationsFault)
  deriving DecidableEq, Repr

/-- What is said about a manifest. -/
def ManifestFault.message : ManifestFault → String
  | .unreadable _ => "error reading manifest"
  | .unfit fault => fault.message

/-- What is said about expectations. -/
def ExpectationsFault.message : ExpectationsFault → String
  | .unreadable _ => "error reading file"
  | .unfit error => error.message

/-- What is said when there is no processor. -/
def BuildFault.message : BuildFault → String
  | .manifest path _ => s!"failed to load WPT manifest at `{path}`"
  | .expectations path _ => s!"failed to parse expectations at `{path}`"

/-- What lies behind it, one thing behind the other. -/
def BuildFault.reasons : BuildFault → List String
  | .manifest _ fault => fault.message :: (match fault with
      | .unreadable fault => [fault.message]
      | .unfit _ => [])
  | .expectations _ fault => fault.message :: (match fault with
      | .unreadable fault => [fault.message]
      | .unfit _ => [])

/-- The manifest in a file. -/
def loadManifest (t : FileTree) (path : String) : Except BuildFault Manifest :=
  match t.readText path with
  | .error fault => .error (.manifest path (.unreadable fault))
  | .ok text => (Manifest.read text).mapError fun fault ↦ .manifest path (.unfit fault)

/-- The manifest in a file of the directory of web tests, if there should be one. -/
def loadManifest? (t : FileTree) (tests : Config.Tests) (path : Option String) :
    Except BuildFault (Option Manifest) :=
  match path with
  | none => .ok none
  | some path => (loadManifest t (tests.resolve path)).map some

/-- Expectations with those of a file more. -/
def loadExpectations (t : FileTree) (tests : Config.Tests) (e : Expectations) (path : String) :
    Except BuildFault Expectations :=
  let path := tests.resolve path
  match t.readText path with
  | .error fault => .error (.expectations path (.unreadable fault))
  | .ok text =>
    match e.addText tests.platformTags text with
    | (e, .ok _) => .ok e
    | (_, .error error) => .error (.expectations path (.unfit error))

/-- What names of tests start with: a slash ends it unless it is empty. -/
def closedPrefix (s : String) : String :=
  if s.isEmpty || Text.hasSuffix "/" s then s else s ++ "/"

/-- The processor of a configuration. -/
def build (t : FileTree) (c : Config) : Except BuildFault Processor := do
  let tests ← loadManifest? t c.tests c.tests.manifest
  let internal ← loadManifest? t c.tests c.tests.internalManifest
  let expectations ← c.tests.expectationsFiles.foldlM (loadExpectations t c.tests) {}
  return {
    extraction :=
      { store := ⟨c.processing.artifactsDir⟩
        layout := .ofDir c.tests.dir c.tests.baselineSearchPath
        resets := c.processing.resetResults }
    lookup := ⟨tests, internal, c.tests.defaultKind⟩
    expectations
    namePrefix := closedPrefix c.processing.testNamePrefix
    crashLogExecutables := c.processing.crashLogExecutables
    shard := c.reporting.shardIndex
    flagName := c.reporting.flagName }

/-- Where a run starts. -/
def start (t : FileTree) (c : Config) : State where
  files := t
  budgets :=
    { failure := c.processing.failureThreshold, crashTimeout := c.processing.crashTimeoutThreshold }

end Processor

end WebTestRun
