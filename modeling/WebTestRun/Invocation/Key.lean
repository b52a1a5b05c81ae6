import WebTestRun.Decimal.Width
import WebTestRun.Invocation.Basic
import WebTestRun.Text.Cut

/-!
# Options

Options have a long name, some a letter too. Which of them can be given depends on where: before
the name of a command, or after it.

* `Invocation.Key` — the options, and what a command is about.
* `Invocation.Place` — where options are given, and `Place.keys` which of them can be.
* `Given.put` — an option is given.
-/

set_option autoImplicit false

namespace WebTestRun.Invocation

/-- The options, and what a command is about. -/
inductive Key where
  | help | version | verbose | color
  | events | configFile | artifactsDir | sinkOutput | webTestsDir | testNamePrefix
  | failureThreshold | crashTimeoutThreshold | resetResults | platformTag | shardIndex
  | flagName | jsonTestResults | runnerReport
  /-- What the command is about, which has no name. -/
  | operand
  deriving DecidableEq, Repr

namespace Key

/-- The long name of an option, which is given after two dashes. -/
def long? : Key → Option String
  | .help => some "help"
  | .version => some "version"
  | .verbose => some "verbose"
  | .color => some "color"
  | .events => some "events"
  | .configFile => some "config-file"
  | .artifactsDir => some "artifacts-dir"
  | .sinkOutput => some "sink-output"
  | .webTestsDir => some "web-tests-dir"
  | .testNamePrefix => some "test-name-prefix"
  | .failureThreshold => some "failure-threshold"
  | .crashTimeoutThreshold => some "crash-timeout-threshold"
  | .resetResults => some "reset-results"
  | .platformTag => some "platform-tag"
  | .shardIndex => some "shard-index"
  | .flagName => some "flag-name"
  | .jsonTestResults => some "json-test-results"
  | .runnerReport => some "wpt-report"
  | .operand => none

/-- The letter of an option, which is given after one dash, together with others or alone. -/
def letter? : Key → Option Char
  | .help => some 'h'
  | .version => some 'V'
  | .verbose => some 'v'
  | _ => none

/-- Whether a value is given with the option. -/
def takesValue : Key → Bool
  | .help | .version | .verbose | .resetResults => false
  | _ => true

end Key

/-! ## Places -/

/-- Where options are given. -/
inductive Place where
  /-- Before the name of a command. -/
  | top
  /-- To the processing of events. -/
  | process
  /-- To the merging of a report. -/
  | merge
  deriving DecidableEq, Repr

namespace Place

/-- The options that can be given at a place. -/
def keys : Place → List Key
  | .top => [.help, .version, .verbose, .color]
  | .process =>
    [.help, .verbose, .color, .configFile, .artifactsDir, .sinkOutput, .events, .webTestsDir,
     .testNamePrefix, .failureThreshold, .crashTimeoutThreshold, .resetResults, .platformTag,
     .shardIndex, .flagName, .jsonTestResults, .runnerReport]
  | .merge => [.help, .verbose, .color, .configFile, .artifactsDir, .sinkOutput]

/-- Whether a command is about something that has to be given. -/
def hasOperand : Place → Bool
  | .merge => true
  | .top | .process => false

/-- The option with a long name. -/
def ofLong? (p : Place) (name : String) : Option Key := p.keys.find? fun k ↦ k.long? == some name

/-- The option with a letter. -/
def ofLetter? (p : Place) (c : Char) : Option Key := p.keys.find? fun k ↦ k.letter? == some c

/-- What is wrong with a word that is no option. -/
def unknownWord : Place → Usage
  | .top => .unknownCommand
  | .process | .merge => .unknownArgument

end Place

/-! ## Values -/

/-- The number that a value spells: decimal digits, with a plus in front if there is one. A number
has 64 bits. -/
def natural? (value : String) : Option Nat :=
  let digits := (Text.dropPrefix? "+" value).getD value
  (Threshold.digits? digits.toList).filter (· < Width.limit64)

/-- What was read, or that the value does not fit. -/
def orUnfit {α : Type} : Option α → Except Usage α
  | some a => .ok a
  | none => .error .unfitValue

/-- What was read, or that the value is none of the choices. -/
def orInvalid {α : Type} : Option α → Except Usage α
  | some a => .ok a
  | none => .error .invalidValue

/-- The threshold that a value spells. -/
def thresholdOf (value : String) : Except Usage Threshold :=
  orUnfit (Threshold.parse value).toOption

/-- The color that a value names. -/
def colorOf (value : String) : Except Usage Color := orInvalid (Named.ofName? value)

/-- The truth value that a word names. -/
def truthOf (value : String) : Except Usage Bool :=
  match value with
  | "true" => .ok true
  | "false" => .ok false
  | _ => .error .invalidValue

/-- The value of an option that can be given once. -/
def once {α : Type} (old : Option α) (new : Except Usage α) : Except Usage (Option α) :=
  match old with
  | some _ => .error .repeated
  | none => new.map some

/-- An option is given with a value, which is empty for one that takes none. -/
def Given.put (g : Given) (key : Key) (value : String) : Except Usage Given := do
  match key with
  | .help => .error .help
  | .version => .error .version
  | .verbose => return { g with verbose := ← once g.verbose (.ok true) }
  | .color => return { g with color := ← once g.color (colorOf value) }
  | .events => return { g with events := ← once g.events (.ok value) }
  | .configFile => return { g with configFile := ← once g.configFile (.ok value) }
  | .artifactsDir => return { g with artifactsDir := ← once g.artifactsDir (.ok value) }
  | .sinkOutput => return { g with sinkOutput := ← once g.sinkOutput (.ok value) }
  | .webTestsDir => return { g with webTestsDir := ← once g.webTestsDir (.ok value) }
  | .testNamePrefix => return { g with testNamePrefix := ← once g.testNamePrefix (.ok value) }
  | .failureThreshold =>
    return { g with failureThreshold := ← once g.failureThreshold (thresholdOf value) }
  | .crashTimeoutThreshold =>
    return { g with crashTimeoutThreshold := ← once g.crashTimeoutThreshold (thresholdOf value) }
  | .resetResults => return { g with resetResults := ← once g.resetResults (.ok true) }
  | .platformTag => return { g with platformTags := g.platformTags ++ [value] }
  | .shardIndex => return { g with shardIndex := ← once g.shardIndex (orUnfit (natural? value)) }
  | .flagName => return { g with flagName := ← once g.flagName (.ok value) }
  | .jsonTestResults => return { g with jsonTestResults := ← once g.jsonTestResults (.ok value) }
  | .runnerReport => return { g with runnerReport := ← once g.runnerReport (.ok value) }
  | .operand => return { g with operand := ← once g.operand (.ok value) }

end WebTestRun.Invocation
