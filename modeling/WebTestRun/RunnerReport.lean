import WebTestRun.Json.Document
import WebTestRun.Json.Written
import WebTestRun.Log
import WebTestRun.Report.Files
import WebTestRun.Text.Blank
import WebTestRun.Text.Line
import WebTestRun.Upload

/-!
# Reports of the runner

The runner writes a report of its own, a JSON object in a line for the first pass over the tests
and one more for each pass over those that are retried. They are merged into one: the first object
with the results of all.

* `RunnerReport.merge` — one object of all lines.
* `RunnerReport.publish` — the merged report written to the artifacts.
-/

set_option autoImplicit false

namespace WebTestRun.RunnerReport

/-- Why there is no merged report. -/
inductive Fault where
  | unreadable (path : String) (fault : FileTree.Fault)
  | empty (path : String)
  /-- A line, counted from one, is no object. -/
  | notObject (path : String) (line : Nat)
  | unwritten (fault : Report.WriteFault)
  deriving DecidableEq, Repr

/-- What is said about it. -/
def Fault.message : Fault → String
  | .unreadable path _ => s!"error reading wptreport `{path}`"
  | .empty path => s!"wptreport `{path}` is empty"
  | .notObject path line => s!"wptreport `{path}` line {line} is not a JSON object"
  | .unwritten fault => fault.message

/-! ## Merging -/

/-- The lines that are not blank, with their numbers. -/
def filledLines (contents : String) : List (Nat × String) :=
  ((Text.numberedLines contents.toList).filter fun l ↦ !Text.allBlank l.2).map fun l ↦
    (l.1, String.ofList l.2)

/-- The members of the object that a text holds. -/
def members? (text : String) : Option (List (String × Json)) :=
  match Json.ofText? text with
  | some (.object members) => some members
  | _ => none

/-- The key of the results. -/
def resultsKey : String := "results"

/-- The list that a member holds. -/
def list? (members : List (String × Json)) (key : String) : Option (List Json) :=
  match Keyed.find? key members with
  | some (.array items) => some items
  | _ => none

/-- A report with the results of a retry, which has a number, and what there is to say. -/
def addRetry (path : String) (number : Nat) (report retry : List (String × Json)) :
    List (String × Json) × List Log :=
  match list? retry resultsKey with
  | none => (report, [.warning .runnerReport s!"{path}: retry {number} has no results"])
  | some more =>
    match Keyed.find? resultsKey report with
    | none => (Keyed.insert resultsKey (.array more) report, [])
    | some (.array results) => (Keyed.insert resultsKey (.array (results ++ more)) report, [])
    | some _ =>
      (report, [.warning .runnerReport
        s!"{path}: `results` is not an array, dropping retry {number}"])

/-- A report with the results of all retries, the first of which has a number. -/
def addRetries (path : String) : (number : Nat) → List (String × Json) → List (Nat × String) →
    List Log × Except Fault (List (String × Json))
  | _, report, [] => ([], .ok report)
  | number, report, (line, text) :: rest =>
    match members? text with
    | none => ([], .error (.notObject path line))
    | some retry =>
      let (report, logs) := addRetry path number report retry
      let (more, result) := addRetries path (number + 1) report rest
      (logs ++ more, result)

/-- The merged report of the lines of a file, and what there is to say. -/
def merge (path contents : String) : List Log × Except Fault (List (String × Json)) :=
  match filledLines contents with
  | [] => ([], .error (.empty path))
  | (line, text) :: rest =>
    match members? text with
    | none => ([], .error (.notObject path line))
    | some report => addRetries path 1 report rest

/-- The text of a merged report. -/
def text (report : List (String × Json)) : String := (Json.object report).written

/-! ## Publishing -/

/-- What publishing has done. -/
structure Published where
  /-- The files. -/
  files : FileTree
  /-- What there is to say. -/
  logs : List Log := []
  /-- What is uploaded. -/
  uploads : List Json := []
  /-- The path of the merged report. -/
  result : Except Fault String

/-- The name of the merged report of a file. -/
def publishedName (path : String) : String := (Path.fileName? path).getD "wpt_report.json"

/-- The tree with a merged report in a directory. -/
def place (t : FileTree) (dir dest : String) (report : List (String × Json)) :
    Except Fault FileTree := do
  let t ← (Report.makeDirs t dir).mapError .unwritten
  (Report.writeFile t dest (text report)).mapError .unwritten

/-- The report of the runner in a file is merged, written to a directory under the name of the
file, and announced. -/
def publish (t : FileTree) (path dir : String) : Published :=
  match t.readText path with
  | .error fault => { files := t, result := .error (.unreadable path fault) }
  | .ok contents =>
    match merge path contents with
    | (logs, .error fault) => { files := t, logs, result := .error fault }
    | (logs, .ok report) =>
      let name := publishedName path
      let dest := Path.join dir name
      match place t dir dest report with
      | .error fault =>
        { files := ((Report.makeDirs t dir).toOption).getD t, logs, result := .error fault }
      | .ok files =>
        { files, logs := logs ++ [.debug .runnerReport s!"wrote merged wptreport to {dest}"]
          uploads := [Upload.ofArtifacts [(name, dest)]], result := .ok dest }

end WebTestRun.RunnerReport
