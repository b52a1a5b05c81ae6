import WebTestRun.Collection.Named
import WebTestRun.Threshold

/-!
# Invocations

What a command line asks for: to process a stream of events, or to merge the report of the runner,
and how the program talks while it does so.

* `Invocation` — what is asked for.
* `Invocation.Usage` — why nothing is done.
* `Invocation.Given` — the values of the options that were given, each of which only once.
-/

set_option autoImplicit false

namespace WebTestRun

/-- When log lines are colored. -/
inductive Color where
  | auto | always | never
  deriving DecidableEq, Repr

instance : Named Color where
  all := [.auto, .always, .never]
  mem_all a := by cases a <;> decide
  name
    | .auto => "auto"
    | .always => "always"
    | .never => "never"
  name_injective a b := by cases a <;> cases b <;> decide

namespace Invocation

/-- What any command can be told about its configuration. -/
structure Setup where
  /-- The file of the configuration. -/
  configFile : Option String := none
  /-- The directory that artifacts are written to. -/
  artifactsDir : Option String := none
  /-- The file that records for a results service are written to. -/
  sinkOutput : Option String := none
  deriving DecidableEq, Repr

/-- What the processing of events can be told. -/
structure ProcessOptions where
  /-- The file with the events, or a dash for the standard input. -/
  events : String := "-"
  /-- What is said about the configuration. -/
  setup : Setup := {}
  /-- The directory of web tests. -/
  webTestsDir : Option String := none
  /-- What the names of tests start with where results are uploaded. -/
  testNamePrefix : Option String := none
  /-- How many unexpected failures there may be. -/
  failureThreshold : Option Threshold := none
  /-- How many unexpected crashes and timeouts there may be together. -/
  crashTimeoutThreshold : Option Threshold := none
  /-- Baselines are replaced by what was observed. -/
  resetResults : Bool := false
  /-- What describes the platform besides what is configured. -/
  platformTags : List String := []
  /-- Which part of the tests ran. -/
  shardIndex : Option Nat := none
  /-- The name of the configuration that the tests ran under. -/
  flagName : Option String := none
  /-- A second path for the report. -/
  jsonTestResults : Option String := none
  /-- The report of the runner. -/
  runnerReport : Option String := none
  deriving DecidableEq, Repr

/-- What is to be done. -/
inductive Command where
  | process (o : ProcessOptions)
  | merge (report : String) (s : Setup)
  deriving DecidableEq, Repr

end Invocation

/-- What a command line asks for. -/
structure Invocation where
  /-- Detail is logged. -/
  verbose : Bool
  /-- When log lines are colored. -/
  color : Color
  /-- What is to be done. -/
  command : Invocation.Command
  deriving DecidableEq, Repr

namespace Invocation

/-- Why nothing is done. -/
inductive Usage where
  /-- Help was asked for. -/
  | help
  /-- The version was asked for. -/
  | version
  /-- Nothing at all was given. -/
  | nothingGiven
  /-- No command was given, but something else. -/
  | noCommand
  /-- There is no such option, or nothing more can be given. -/
  | unknownArgument
  /-- There is no such command. -/
  | unknownCommand
  /-- What the command is about was not given. -/
  | missingArgument
  /-- The value of an option does not spell what it should. -/
  | unfitValue
  /-- The value of an option is missing or none of the choices. -/
  | invalidValue
  /-- An option was given twice. -/
  | repeated
  /-- A value was given to an option that takes none. -/
  | needlessValue
  deriving DecidableEq, Repr

/-! ## Given options -/

/-- The values of the options that were given. -/
structure Given where
  verbose : Option Bool := none
  color : Option Color := none
  events : Option String := none
  configFile : Option String := none
  artifactsDir : Option String := none
  sinkOutput : Option String := none
  webTestsDir : Option String := none
  testNamePrefix : Option String := none
  failureThreshold : Option Threshold := none
  crashTimeoutThreshold : Option Threshold := none
  resetResults : Option Bool := none
  platformTags : List String := []
  shardIndex : Option Nat := none
  flagName : Option String := none
  jsonTestResults : Option String := none
  runnerReport : Option String := none
  /-- What the command is about. -/
  operand : Option String := none
  deriving DecidableEq, Repr

/-- What was said about the configuration. -/
def Given.setup (g : Given) : Setup := ⟨g.configFile, g.artifactsDir, g.sinkOutput⟩

/-- What was said about the processing of events. -/
def Given.processOptions (g : Given) : ProcessOptions where
  events := g.events.getD "-"
  setup := g.setup
  webTestsDir := g.webTestsDir
  testNamePrefix := g.testNamePrefix
  failureThreshold := g.failureThreshold
  crashTimeoutThreshold := g.crashTimeoutThreshold
  resetResults := g.resetResults.getD false
  platformTags := g.platformTags
  shardIndex := g.shardIndex
  flagName := g.flagName
  jsonTestResults := g.jsonTestResults
  runnerReport := g.runnerReport

end Invocation

end WebTestRun
