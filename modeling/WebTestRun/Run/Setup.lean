import WebTestRun.Invocation.Basic
import WebTestRun.Run.Basic

/-!
# Setting up a run

What is given to a command counts more than what is configured, and what it can have several of is
put to what is configured.

* `Run.configured` — the configuration that a command works with.
* `ProcessOptions.override` — what the processing of events can be told besides.
* `Run.publish` — the report of the runner is published.
-/

set_option autoImplicit false

namespace WebTestRun

/-- A configuration with what any command can be told. -/
def Invocation.Setup.override (s : Invocation.Setup) (c : Config) : Config :=
  { c with
    processing := { c.processing with
      artifactsDir := s.artifactsDir.getD c.processing.artifactsDir }
    reporting := { c.reporting with
      sinkOutput := s.sinkOutput.orElse fun _ ↦ c.reporting.sinkOutput } }

/-- A configuration with what the processing of events can be told besides. -/
def Invocation.ProcessOptions.override (o : Invocation.ProcessOptions) (c : Config) : Config :=
  { processing := { c.processing with
      testNamePrefix := o.testNamePrefix.getD c.processing.testNamePrefix
      failureThreshold := o.failureThreshold.getD c.processing.failureThreshold
      crashTimeoutThreshold := o.crashTimeoutThreshold.getD c.processing.crashTimeoutThreshold
      resetResults := c.processing.resetResults || o.resetResults }
    tests := { c.tests with
      dir := o.webTestsDir.getD c.tests.dir
      platformTags := c.tests.platformTags ++ o.platformTags }
    reporting := { c.reporting with
      shardIndex := o.shardIndex.orElse fun _ ↦ c.reporting.shardIndex
      flagName := o.flagName.orElse fun _ ↦ c.reporting.flagName } }

namespace Run

/-- The configuration that a command works with. -/
def configured (s : Invocation.Setup) : Action Config := do
  let (config, logs) ← orFail .config (Config.load (← files) "." s.configFile)
  say .main logs
  return s.override config

/-- The report of the runner in a file is published to a directory. -/
def publish (path dir : String) (sink : Option Sink) : Action String := do
  let published := RunnerReport.publish (← files) path dir
  setFiles published.files
  say .main published.logs
  let _ ← Sink.append? published.uploads sink
  orFail .runnerReportNotMerged published.result

end Run

end WebTestRun
