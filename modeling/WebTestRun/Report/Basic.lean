import WebTestRun.Decimal.Width
import WebTestRun.Json.Written
import WebTestRun.Report.Trie
import WebTestRun.Verdict

/-!
# Reports

A report says how a run went: which verdicts the tests had at first, how many passed or regressed
in the end, and everything about each test.

* `Report` — a report.
* `Report.json`, `Report.ofJson?` — its JSON value; `Report.text`, `Report.ofText?` — its text.
* `Report.failing` — the report on the regressions alone.
-/

set_option autoImplicit false

namespace WebTestRun

/-- A report. -/
structure Report where
  /-- The version of the form of reports. -/
  version : Nat
  /-- The run was cut short. -/
  interrupted : Bool
  /-- What separates the components of names. -/
  pathDelimiter : String
  /-- When the report was made, in seconds. -/
  secondsSinceEpoch : Int
  /-- The directory of web tests. -/
  layoutTestsDir : String
  /-- The name of the configuration that the tests ran under. -/
  flagName : Option String
  /-- How many attempts had each verdict before the first retry, in the order of the verdicts. -/
  counts : List (Verdict × Nat)
  /-- The number of tests whose last attempt passed. -/
  passes : Nat
  /-- The number of tests whose last attempt is a regression. -/
  regressions : Nat
  /-- The number of attempts that were skipped before the first retry. -/
  skipped : Nat
  /-- What is said about each test. -/
  tests : Trie

namespace Report

/-- The version of the form of reports. -/
def currentVersion : Nat := 3

/-- The report on the regressions alone. -/
def failing (r : Report) : Report := { r with tests := r.tests.regressions }

/-- The members of the record of a report. -/
def members (r : Report) : List (String × Json) :=
  [("version", .ofNat r.version),
   ("interrupted", .bool r.interrupted),
   ("path_delimiter", .string r.pathDelimiter),
   ("seconds_since_epoch", .number (.integer r.secondsSinceEpoch)),
   ("layout_tests_dir", .string r.layoutTestsDir),
   ("flag_name", .textOrNull r.flagName),
   ("num_failures_by_type", .object (r.counts.map fun c ↦ (Named.name c.1, .ofNat c.2))),
   ("num_passes", .ofNat r.passes),
   ("num_regressions", .ofNat r.regressions),
   ("skipped", .ofNat r.skipped),
   ("tests", r.tests.json)]

/-- The record of a report. -/
def json (r : Report) : Json := .object r.members

/-- The text of a report. -/
def text (r : Report) : String := r.json.written

/-! ## Reading -/

/-- The names of the fields, in order. -/
def names : List String :=
  ["version", "interrupted", "path_delimiter", "seconds_since_epoch", "layout_tests_dir",
   "flag_name", "num_failures_by_type", "num_passes", "num_regressions", "skipped", "tests"]

/-- Counts under the names of verdicts, in the order of the verdicts. -/
def counts? (d : Document) : Option (List (Verdict × Nat)) := do
  let members ← Leaf.members? Document.natural? d
  if members.all fun m ↦ (Named.ofName? (α := Verdict) m.1).isSome then
    return (Listed.all : List Verdict).filterMap fun v ↦
      (Keyed.find? (Named.name v) members).map fun n ↦ (v, n)
  else none

/-- The report that a document gives, given how the trie in it is read. -/
def readWith? (tests? : Document → Option Trie) (d : Document) : Option Report := do
  let f ← d.fields? names
  let natural? (name : String) : Option Nat := do (← f.required? name).natural?
  let version ← natural? "version"
  if Width.limit32 ≤ version then none
  else return {
    version
    interrupted := ← (← f.required? "interrupted").boolean?
    pathDelimiter := ← (← f.required? "path_delimiter").text?
    secondsSinceEpoch := ← (← f.required? "seconds_since_epoch").signed?
    layoutTestsDir := ← (← f.required? "layout_tests_dir").text?
    flagName := ← (← f.nullable? "flag_name").orNull? Document.text?
    counts := ← counts? (← f.required? "num_failures_by_type")
    passes := ← natural? "num_passes"
    regressions := ← natural? "num_regressions"
    skipped := ← natural? "skipped"
    tests := ← tests? (← f.required? "tests") }

/-- The report of a value, nested however deep. -/
def ofJson? (j : Json) : Option Report := readWith? Trie.read? (.ofJson j)

/-- The report that the document of a text gives. -/
def ofDocument? (d : Document) : Option Report :=
  readWith? (Trie.ofDocument? (Document.nestingLimit - 1)) d

/-- The report of a text. -/
def ofText? (s : String) : Option Report := (Document.ofText? s).bind ofDocument?

end Report

end WebTestRun
