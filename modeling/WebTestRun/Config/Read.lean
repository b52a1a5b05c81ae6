import WebTestRun.Config.Basic
import WebTestRun.Duration
import WebTestRun.File.Tree
import WebTestRun.Log
import WebTestRun.Text.Utf8
import WebTestRun.Toml.Table

/-!
# Reading a configuration

The settings of a file are put over the defaults, and then each section is read setting by
setting, in the order in which they are held. The first that does not fit is reported; keys that
no section has are left out and listed. A section can also be a list, whose items are its settings
in a fixed order.

* `Config.ofText` — the configuration of a text.
* `Config.load` — the configuration of a file.
-/

set_option autoImplicit false

namespace WebTestRun.Config

/-! ## Single settings -/

/-- What was read, or the fault that there is no such value. -/
def orUnfit {α : Type} : Option α → Except Unfit α
  | some a => .ok a
  | none => .error {}

/-- A text. -/
def text (s : Setting) : Except Unfit String := orUnfit s.asText?

/-- A text, or no value. -/
def optionalText : Setting → Except Unfit (Option String)
  | .missing => .ok none
  | s => (text s).map some

/-- A natural number, or no value. -/
def optionalNatural : Setting → Except Unfit (Option Nat)
  | .missing => .ok none
  | s => (orUnfit s.asNatural?).map some

/-- A truth value. -/
def boolean (s : Setting) : Except Unfit Bool := orUnfit s.asBoolean?

/-- A list of texts. -/
def texts : Setting → Except Unfit (List String)
  | .list items => items.zipIdx.mapM fun i ↦
    (text i.1).mapError (Unfit.below (.position i.2))
  | _ => .error {}

/-- A length of time. -/
def duration (s : Setting) : Except Unfit Nat := orUnfit (s.asText?.bind Duration.parse?)

/-- The kind that a name stands for. Upper and lower case of the ASCII letters are the same. -/
def kindOfName? (name : String) : Option TestKind :=
  Listed.all.find? fun k ↦ Text.equalsIgnoringCase (Named.name k) name

/-- A kind of test: its name, or a table whose only key is its name. -/
def kind : Setting → Except Unfit TestKind
  | .text name => orUnfit (kindOfName? name)
  | .table [(name, _)] => orUnfit (kindOfName? name)
  | _ => .error {}

/-- A floating-point number as a message about its type shows it. -/
def shownReal (x : Float) : String :=
  let digits := Decimal.plain x
  String.ofList (if parts? x && !digits.contains '.' then digits ++ ['.', '0'] else digits)
where
  /-- Whether a number is finite. -/
  parts? (x : Float) : Bool := (Decimal.parts? x).isSome

/-- The threshold of a setting. -/
def thresholdOf : Setting → Except Threshold.Unfit Threshold
  | .text s => Threshold.ofText s
  | .integer n => Threshold.ofInt n
  | .real x => .error (.wrongType s!"floating point `{shownReal x}`")
  | .boolean b => .error (.wrongType (if b then "boolean `true`" else "boolean `false`"))
  | .missing => .error (.wrongType "unit value")
  | .list _ => .error (.wrongType "sequence")
  | .table _ => .error (.wrongType "map")

/-- A threshold. -/
def threshold (s : Setting) : Except Unfit Threshold :=
  (thresholdOf s).mapError fun u ↦ ⟨[], some u⟩

/-! ## Sections -/

/-- A setting of a section. -/
structure Entry where
  /-- The way to it. -/
  step : Setting.Step
  /-- Its key. -/
  key : String
  /-- The setting. -/
  setting : Setting

/-- The settings of a section whose keys, in order, are given. -/
def entries? (keys : List String) : Setting → Option (List Entry)
  | .table members => some (members.map fun m ↦ ⟨.key m.1, m.1, m.2⟩)
  | .list items => some ((keys.zip items).zipIdx.map fun e ↦ ⟨.position e.2, e.1.1, e.1.2⟩)
  | _ => none

/-- What was read of a section, and the keys that it does not have. -/
abbrev Reading (σ : Type) := σ × List (List Setting.Step)

/-- How one setting of a section is read: nothing if the section has no such key. -/
abbrev Setter (σ : Type) := σ → String → Setting → Option (Except Unfit (Reading σ))

/-- One setting more. -/
def addEntry {σ : Type} (set : Setter σ) (r : Reading σ) (e : Entry) :
    Except Unfit (Reading σ) :=
  match set r.1 e.key e.setting with
  | none => .ok (r.1, r.2 ++ [[e.step]])
  | some (.ok (read, unknown)) => .ok (read, r.2 ++ unknown.map (e.step :: ·))
  | some (.error u) => .error (u.below e.step)

/-- A section of which some keys must be there. -/
def readSection {σ : Type} (keys required : List String) (start : σ) (set : Setter σ)
    (s : Setting) : Except Unfit (Reading σ) :=
  match entries? keys s with
  | none => .error {}
  | some entries => do
    let r ← entries.foldlM (addEntry set) (start, [])
    if required.all fun k ↦ entries.any fun e ↦ e.key == k then .ok r else .error {}

/-- A setting of which nothing is unknown, put into a section. -/
def plainly {α σ : Type} (r : Except Unfit α) (put : α → σ) : Option (Except Unfit (Reading σ)) :=
  some (r.map fun a ↦ (put a, []))

/-- The keys of the section on processing. -/
def processingKeys : List String :=
  ["artifacts-dir", "test-name-prefix", "failure-threshold", "crash-timeout-threshold",
   "reset-results", "shutdown-timeout", "crash-log-executables"]

/-- A setting of the section on processing. -/
def setProcessing : Setter Processing := fun c key s ↦
  match key with
  | "artifacts-dir" => plainly (text s) fun a ↦ { c with artifactsDir := a }
  | "test-name-prefix" => plainly (text s) fun a ↦ { c with testNamePrefix := a }
  | "failure-threshold" => plainly (threshold s) fun a ↦ { c with failureThreshold := a }
  | "crash-timeout-threshold" =>
    plainly (threshold s) fun a ↦ { c with crashTimeoutThreshold := a }
  | "reset-results" => plainly (boolean s) fun a ↦ { c with resetResults := a }
  | "shutdown-timeout" => plainly (duration s) fun a ↦ { c with shutdownTimeout := a }
  | "crash-log-executables" => plainly (texts s) fun a ↦ { c with crashLogExecutables := a }
  | _ => none

/-- The keys of the section on tests. -/
def testsKeys : List String :=
  ["dir", "wpt-manifest", "internal-manifest", "baseline-search-path", "expectations-files",
   "platform-tags", "default-test-type"]

/-- A setting of the section on tests. -/
def setTests : Setter Tests := fun c key s ↦
  match key with
  | "dir" => plainly (text s) fun a ↦ { c with dir := a }
  | "wpt-manifest" => plainly (optionalText s) fun a ↦ { c with manifest := a }
  | "internal-manifest" => plainly (optionalText s) fun a ↦ { c with internalManifest := a }
  | "baseline-search-path" => plainly (texts s) fun a ↦ { c with baselineSearchPath := a }
  | "expectations-files" => plainly (texts s) fun a ↦ { c with expectationsFiles := a }
  | "platform-tags" => plainly (texts s) fun a ↦ { c with platformTags := a }
  | "default-test-type" => plainly (kind s) fun a ↦ { c with defaultKind := a }
  | _ => none

/-- The keys of the section on the report. -/
def reportingKeys : List String := ["shard-index", "flag-name", "sink-output"]

/-- A setting of the section on the report. -/
def setReporting : Setter Reporting := fun c key s ↦
  match key with
  | "shard-index" => plainly (optionalNatural s) fun a ↦ { c with shardIndex := a }
  | "flag-name" => plainly (optionalText s) fun a ↦ { c with flagName := a }
  | "sink-output" => plainly (optionalText s) fun a ↦ { c with sinkOutput := a }
  | _ => none

/-- A section put into the configuration. -/
def nested {σ : Type} (r : Except Unfit (Reading σ)) (put : σ → Config) :
    Option (Except Unfit (Reading Config)) :=
  some (r.map fun r ↦ (put r.1, r.2))

/-- A section of the configuration. -/
def setSection : Setter Config := fun c key s ↦
  match key with
  | "processor" =>
    nested (readSection processingKeys processingKeys {} setProcessing s) fun a ↦
      { c with processing := a }
  | "web-tests" =>
    nested (readSection testsKeys
        (testsKeys.filter fun k ↦ k ∉ ["wpt-manifest", "internal-manifest"]) {} setTests s)
      fun a ↦ { c with tests := a }
  | "report" =>
    nested (readSection reportingKeys [] {} setReporting s) fun a ↦ { c with reporting := a }
  | _ => none

/-- The configuration of settings put over the defaults, and the keys that it does not have. -/
def ofLayer (new : List (String × Setting)) : Except Unfit (Reading Config) :=
  let sections := ["processor", "web-tests", "report"]
  readSection sections sections {} setSection ((Setting.table defaults).layer new)

/-! ## Texts and files -/

/-- Why there is no configuration. -/
inductive Fault where
  /-- The text cannot be read, or is not TOML. -/
  | unreadable
  /-- A setting does not fit. -/
  | unfit (u : Unfit)
  deriving DecidableEq, Repr

/-- The keys of unknown settings as texts, in increasing order and none twice. -/
def unknownKeys (unknown : List (List Setting.Step)) : List String :=
  Keyed.keys (Keyed.ofList (unknown.map fun path ↦ (pathText path, ())))

/-- The configuration of a text, and its unknown keys. -/
def ofText (toml : String) : Except Fault (Config × List String) :=
  match Toml.read toml with
  | none => .error .unreadable
  | some new =>
    match ofLayer new with
    | .error u => .error (.unfit u)
    | .ok (c, unknown) => .ok (c, unknownKeys unknown)

/-- Where the configuration of a project lies, relative to the project. -/
def projectPath : String := ".config/wpt-results.toml"

/-- A file without a configuration. -/
structure Error where
  /-- The path of the file. -/
  file : String
  /-- Why there is none. -/
  fault : Fault
  deriving DecidableEq, Repr

/-- What is said about it. -/
def Error.message (e : Error) : String := s!"failed to parse wpt-results config at `{e.file}`"

/-- Where a configuration is searched: at a path and, if no file is there, at the path with an
extension more. -/
def candidates (path : String) : List String :=
  match Path.fileName? path with
  | some name => [path, Path.join ((Path.parent? path).getD "") (name ++ ".toml")]
  | none => [path]

/-- The text of the first file that is there. A byte order mark in front does not count, and bytes
that are no text are replaced. -/
def findText (t : FileTree) (path : String) : Option String :=
  ((candidates path).findSome? fun p ↦ (t.read p).toOption).map fun bytes ↦
    Utf8.mended (Utf8.withoutMark bytes.data.toList)

/-- The configuration of a file. Without a path it is that of the project at `root`, which need not
have one. Every unknown key is warned of. -/
def load (t : FileTree) (root : String) (path : Option String) :
    Except Error (Config × List Log) :=
  let file := path.getD (Path.join root projectPath)
  let layer := match findText t file with
    | some toml => ofText toml
    | none => if path.isSome then .error .unreadable else ofText ""
  match layer with
  | .error fault => .error ⟨file, fault⟩
  | .ok (c, unknown) =>
    .ok (c, unknown.map fun key ↦
      .warning .config s!"ignoring unknown configuration key `{key}` in {file}")

end WebTestRun.Config
